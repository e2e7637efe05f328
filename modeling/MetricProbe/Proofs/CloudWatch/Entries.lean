import MetricProbe.CloudWatch.Form
import MetricProbe.Proofs.Association
import MetricProbe.Proofs.Text.Split
import Std.Data.String.ToInt

/-!
# Entries and keys

A key shows the names on the way to a value as long as no name has a point in it, so entries can be
told apart by their keys. Going down by one name is the inverse of building a structure: `within`
gives back the entries of the member of that name.
-/

namespace MetricProbe.CloudWatch

/-! ## Keys -/

/-- A name that can be part of a key. -/
def IsName (name : String) : Prop := '.' ∉ name.toList

instance : DecidablePred IsName := fun name => inferInstanceAs (Decidable ('.' ∉ name.toList))

/-- Names that tell members apart: no name stands twice, and all can be part of a key. -/
def AreNames (names : List String) : Prop := names.Nodup ∧ ∀ name ∈ names, IsName name

instance : DecidablePred AreNames := fun _ => inferInstanceAs (Decidable (_ ∧ _))

/-- A path that a key shows: at least one name, and points in none of them. -/
def IsPath (path : List String) : Prop := path ≠ [] ∧ ∀ name ∈ path, IsName name

/-- A key is its names with points between them. -/
theorem keyText_eq_intercalate (path : List String) : keyText path = ".".intercalate path := by
  induction path with
  | nil => rfl
  | cons name path inductionHypothesis =>
      cases path with
      | nil => simp [keyText]
      | cons next path => rw [String.intercalate_cons_cons, ← inductionHypothesis, keyText]

/-- A path goes on with a name. -/
theorem isPath_append {path : List String} {name : String} (names : ∀ name ∈ path, IsName name)
    (isName : IsName name) : IsPath (path ++ [name]) := by
  refine ⟨by simp, fun other inside => ?_⟩
  rcases List.mem_append.1 inside with earlier | last
  · exact names other earlier
  · exact List.mem_singleton.1 last ▸ isName

/-- The key of a path behind its first name. -/
theorem keyText_cons (name : String) {path : List String} (more : path ≠ []) :
    keyText (name :: path) = name ++ "." ++ keyText path := by
  obtain ⟨next, rest, rfl⟩ := List.exists_cons_of_ne_nil more
  rfl

/-- A path continues behind a point. -/
theorem keyText_append {outer inner : List String} (begun : outer ≠ []) (more : inner ≠ []) :
    keyText (outer ++ inner) = keyText outer ++ "." ++ keyText inner := by
  induction outer with
  | nil => exact absurd rfl begun
  | cons name outer inductionHypothesis =>
      cases outer with
      | nil => exact keyText_cons name more
      | cons next outer =>
          have tail := inductionHypothesis (List.cons_ne_nil next outer)
          rw [List.cons_append, keyText_cons name (by simp), tail,
            keyText_cons name (List.cons_ne_nil next outer)]
          simp only [String.append_assoc]

/-- Cut at its points, a key gives back its names. -/
theorem splitAll_keyText {path : List String} (isPath : IsPath path) :
    Text.splitAll (· == '.') (keyText path).toList = path.map String.toList := by
  obtain ⟨begun, names⟩ := isPath
  have free : ∀ name ∈ path, ∀ c ∈ name.toList, (c == '.') = false := fun name member c inside =>
    beq_false_of_ne fun point => names name member (point ▸ inside)
  clear names
  induction path with
  | nil => exact absurd rfl begun
  | cons name path inductionHypothesis =>
      have first := free name List.mem_cons_self
      cases path with
      | nil => exact Text.splitAll_of_free first
      | cons next path =>
          have rest := inductionHypothesis (List.cons_ne_nil next path)
            fun other member => free other (List.mem_cons_of_mem name member)
          have point : ".".toList = ['.'] := rfl
          rw [keyText_cons name (List.cons_ne_nil next path), String.toList_append,
            String.toList_append, point, List.append_assoc, List.singleton_append,
            Text.splitAll_append rfl, Text.splitAll_of_free first, rest]
          rfl

/-- Different paths have different keys. -/
theorem keyText_inj {path other : List String} (isPath : IsPath path) (otherIsPath : IsPath other) :
    keyText path = keyText other ↔ path = other := by
  constructor
  · intro same
    have names : path.map String.toList = other.map String.toList := by
      rw [← splitAll_keyText isPath, ← splitAll_keyText otherIsPath, same]
    exact List.map_injective_iff.2 (fun _ _ => String.toList_injective) names
  · exact congrArg keyText

/-- The number of a member is a name. -/
theorem isName_number (number : Nat) : IsName (toString number) := by
  intro point
  rw [Nat.toString_eq_repr, Nat.toList_repr] at point
  have digit := Nat.isDigit_of_mem_toDigits (by decide) (by decide) point
  exact absurd digit (by decide)

namespace Entries

/-! ## Well-formed entries -/

/-- Entries that keys tell apart: no path stands twice, and all names can be part of a key. -/
structure WellFormed (entries : Entries) : Prop where
  distinct : (entries.map Prod.fst).Nodup
  names : ∀ entry ∈ entries, ∀ name ∈ entry.1, IsName name

/-- A single value has no names. -/
theorem mem_one_iff {path : List String} {value given : String} :
    (path, value) ∈ one given ↔ path = [] ∧ value = given := by
  rw [one, List.mem_singleton, Prod.mk.injEq]

/-- A single value is well formed. -/
theorem wellFormed_one (value : String) : (one value).WellFormed where
  distinct := List.nodup_singleton _
  names := by simp [one]

/-- What may be absent is well formed if it is when it is there. -/
theorem wellFormed_optional {α : Type} {write : α → Entries} {value : Option α}
    (given : ∀ present ∈ value, (write present).WellFormed) :
    (optional write value).WellFormed := by
  cases value with
  | none => exact ⟨List.nodup_nil, by simp [optional]⟩
  | some present => exact given present rfl

/-- The entries of a structure are those of its members, below their names. -/
theorem mem_record_iff {members : List (String × Entries)} {path : List String} {value : String} :
    (path, value) ∈ record members ↔
      ∃ name entries rest, (name, entries) ∈ members ∧ (rest, value) ∈ entries ∧
        path = name :: rest := by
  simp only [record, below, List.mem_flatMap, List.mem_map, Prod.mk.injEq, Prod.exists]
  constructor
  · rintro ⟨name, entries, member, rest, _, inside, rfl, rfl⟩
    exact ⟨name, entries, rest, member, inside, rfl⟩
  · rintro ⟨name, entries, rest, member, inside, rfl⟩
    exact ⟨name, entries, member, rest, value, inside, rfl, rfl⟩

/-- The entries of a structure, the first member apart from the others. -/
theorem mem_record_cons_iff {name : String} {entries : Entries}
    {members : List (String × Entries)} {path : List String} {value : String} :
    (path, value) ∈ record ((name, entries) :: members) ↔
      (∃ rest, path = name :: rest ∧ (rest, value) ∈ entries) ∨
        (path, value) ∈ record members := by
  simp only [mem_record_iff, List.mem_cons, Prod.mk.injEq]
  constructor
  · rintro ⟨_, _, rest, ⟨rfl, rfl⟩ | member, inside, rfl⟩
    · exact .inl ⟨rest, rfl, inside⟩
    · exact .inr ⟨_, _, rest, member, inside, rfl⟩
  · rintro (⟨rest, rfl, inside⟩ | ⟨_, _, rest, member, inside, rfl⟩)
    · exact ⟨_, _, rest, .inl ⟨rfl, rfl⟩, inside, rfl⟩
    · exact ⟨_, _, rest, .inr member, inside, rfl⟩

/-- A structure without members has no entries. -/
theorem not_mem_record_nil {entry : List String × String} : entry ∉ record [] := List.not_mem_nil

/-- What may be absent has the entries of what is there. -/
theorem mem_optional_iff {α : Type} {write : α → Entries} {given : Option α} {path : List String}
    {value : String} :
    (path, value) ∈ optional write given ↔
      ∃ present, given = some present ∧ (path, value) ∈ write present := by
  cases given <;> simp [optional]

/-- A structure is well formed if its members are and have different names. -/
theorem wellFormed_record {members : List (String × Entries)}
    (areNames : AreNames (members.map Prod.fst))
    (wellFormed : ∀ member ∈ members, member.2.WellFormed) : (record members).WellFormed where
  distinct := by
    rw [record, List.map_flatMap, List.nodup_flatMap]
    constructor
    · intro member inside
      have paths : ((member.2.below member.1).map Prod.fst).map List.tail =
          member.2.map Prod.fst := by
        simp [below, Function.comp_def]
      exact List.Nodup.of_map List.tail (paths ▸ (wellFormed member inside).distinct)
    · refine (List.pairwise_map.1 areNames.1).imp fun {first second} different => ?_
      intro path inFirst inSecond
      simp only [below, List.map_map, List.mem_map, Function.comp_apply] at inFirst inSecond
      obtain ⟨_, _, rfl⟩ := inFirst
      obtain ⟨_, _, same⟩ := inSecond
      exact different (List.cons.inj same).1.symm
  names := by
    rintro ⟨path, value⟩ inside name inPath
    obtain ⟨first, entries, rest, member, found, rfl⟩ := mem_record_iff.1 inside
    rcases List.mem_cons.1 inPath with rfl | deeper
    · exact areNames.2 _ (List.mem_map_of_mem (f := Prod.fst) member)
    · exact (wellFormed _ member).names _ found name deeper

/-- The members of a list have their numbers as names. -/
theorem map_fst_numbered (items : List Entries) :
    (numbered items).map Prod.fst = (List.range items.length).map fun index =>
      toString (index + 1) := by
  refine List.ext_getElem (by simp [numbered]) fun index _ _ => ?_
  simp [numbered]

/-- The numbers of members are names that tell them apart. -/
theorem areNames_numbered (items : List Entries) :
    AreNames ((numbered items).map Prod.fst) := by
  rw [map_fst_numbered]
  constructor
  · refine List.nodup_range.map fun first second same => ?_
    exact Nat.succ.inj (Nat.repr_injective same)
  · intro name member
    obtain ⟨index, _, rfl⟩ := List.mem_map.1 member
    exact isName_number _

/-- The members of a list, with their numbers counted from one. -/
theorem mem_numbered_iff {items : List Entries} {name : String} {item : Entries} :
    (name, item) ∈ numbered items ↔
      ∃ index, items[index]? = some item ∧ name = toString (index + 1) := by
  simp only [numbered, List.mem_mapIdx, Prod.mk.injEq, List.getElem?_eq_some_iff]
  constructor
  · rintro ⟨index, bound, rfl, rfl⟩
    exact ⟨index, ⟨bound, rfl⟩, rfl⟩
  · rintro ⟨index, ⟨bound, rfl⟩, rfl⟩
    exact ⟨index, bound, rfl, rfl⟩

/-- A list of nothing is a bare key; every other list is its members below their numbers. -/
theorem mem_list_iff {items : List Entries} {path : List String} {value : String} :
    (path, value) ∈ list items ↔
      (items = [] ∧ path = [] ∧ value = "") ∨
        ∃ index item rest, items[index]? = some item ∧ (rest, value) ∈ item ∧
          path = "member" :: toString (index + 1) :: rest := by
  unfold list
  split
  next empty => simp [List.isEmpty_iff.1 empty, one]
  next filled =>
    have some : items ≠ [] := fun none => filled (List.isEmpty_iff.2 none)
    rw [mem_record_iff]
    constructor
    · rintro ⟨_, _, _, single, inside, rfl⟩
      obtain ⟨rfl, rfl⟩ := Prod.mk.inj (List.mem_singleton.1 single)
      obtain ⟨_, item, rest, member, ofItem, rfl⟩ := mem_record_iff.1 inside
      obtain ⟨index, here, rfl⟩ := mem_numbered_iff.1 member
      exact .inr ⟨index, item, rest, here, ofItem, rfl⟩
    · rintro (⟨none, -⟩ | ⟨index, item, rest, here, inside, rfl⟩)
      · exact absurd none some
      · have member := mem_numbered_iff.2 ⟨index, here, rfl⟩
        exact ⟨"member", _, _, List.mem_singleton_self _,
          mem_record_iff.2 ⟨_, _, _, member, inside, rfl⟩, rfl⟩

/-- A list is well formed if its members are. -/
theorem wellFormed_list {items : List Entries} (wellFormed : ∀ item ∈ items, item.WellFormed) :
    (list items).WellFormed := by
  unfold list
  split
  · exact wellFormed_one ""
  · have inside : (record (numbered items)).WellFormed := by
      refine wellFormed_record (areNames_numbered items) fun member inside => ?_
      obtain ⟨_, here, _⟩ := mem_numbered_iff.1 inside
      exact wellFormed _ (List.mem_of_getElem? here)
    exact wellFormed_record (show AreNames ["member"] by decide) (by simpa using inside)

/-! ## Going down -/

/-- The entries below a name, without the name. -/
def within (name : String) (entries : Entries) : Entries :=
  entries.filterMap fun
    | (first :: rest, value) => if first = name then some (rest, value) else none
    | ([], _) => none

/-- A lookup below a name is a lookup with the name in front. -/
theorem lookup_within (name : String) (entries : Entries) (path : List String) :
    (entries.within name).lookup path = entries.lookup (name :: path) := by
  induction entries with
  | nil => rfl
  | cons entry entries inductionHypothesis =>
      rcases entry with ⟨_ | ⟨first, rest⟩, value⟩
      · simpa [within, List.lookup_cons] using inductionHypothesis
      · by_cases same : first = name
        · subst same
          have keys : (first :: path == first :: rest) = (path == rest) := by simp
          rw [List.lookup_cons, keys, ← inductionHypothesis]
          simp [within, List.lookup_cons]
        · have keys : (name :: path == first :: rest) = false := by simp [Ne.symm same]
          rw [List.lookup_cons, keys, ← inductionHypothesis]
          simp [within, same]

/-- Below a name there are no more entries than in all. -/
theorem length_within_le (name : String) (entries : Entries) :
    (entries.within name).length ≤ entries.length :=
  List.length_filterMap_le _ _

/-- Below the name of a member of a structure are the entries of the member, and below every other
name there is nothing. -/
theorem within_record {members : List (String × Entries)}
    (areNames : AreNames (members.map Prod.fst)) (name : String) :
    (record members).within name = (members.lookup name).getD [] := by
  obtain ⟨distinct, -⟩ := areNames
  induction members with
  | nil => rfl
  | cons member members inductionHypothesis =>
      obtain ⟨first, entries⟩ := member
      have others : first ∉ members.map Prod.fst := (List.nodup_cons.1 distinct).1
      have rest := inductionHypothesis (List.nodup_cons.1 distinct).2
      have parts : (record ((first, entries) :: members)).within name =
          (entries.below first).within name ++ (record members).within name := by
        simp [record, within]
      rw [parts, rest]
      by_cases same : name = first
      · subst same
        have absent : members.lookup name = none := List.lookup_eq_none_iff.2 fun other member =>
          bne_iff_ne.2 fun same => others (same ▸ List.mem_map_of_mem (f := Prod.fst) member)
        simp [absent, below, within, List.filterMap_map]
      · have different : (name == first) = false := beq_false_of_ne same
        simp [List.lookup_cons, different, below, within, List.filterMap_map, Ne.symm same]

/-- The members of a list are found under their numbers. -/
theorem lookup_numbered (items : List Entries) (index : Nat) :
    (numbered items).lookup (toString (index + 1)) = items[index]? := by
  refine Option.ext fun item => ?_
  rw [lookup_eq_some_iff_mem (areNames_numbered items).1, mem_numbered_iff]
  constructor
  · rintro ⟨place, here, number⟩
    obtain rfl : index = place := Nat.succ.inj (Nat.repr_injective number)
    exact here
  · exact fun here => ⟨index, here, rfl⟩

/-- Below the number of a member of a list are the entries of the member, and below every other
number there is nothing. -/
theorem within_list (items : List Entries) (index : Nat) :
    ((list items).within "member").within (toString (index + 1)) = (items[index]?).getD [] := by
  unfold list
  split
  next empty =>
    rw [List.isEmpty_iff.1 empty]
    rfl
  next =>
    have areNames : AreNames ([("member", record (numbered items))].map Prod.fst) :=
      show AreNames ["member"] by decide
    have single := within_record areNames "member"
    rw [List.lookup_cons_self, Option.getD_some] at single
    rw [single, within_record (areNames_numbered items), lookup_numbered]

/-- A structure has at least as many entries as members that have any. -/
theorem length_le_length_record {members : List (String × Entries)}
    (filled : ∀ member ∈ members, member.2 ≠ []) : members.length ≤ (record members).length := by
  induction members with
  | nil => exact Nat.le_refl 0
  | cons member members inductionHypothesis =>
      have rest := inductionHypothesis fun other inside =>
        filled other (List.mem_cons_of_mem member inside)
      have first := List.length_pos_iff.2 (filled member List.mem_cons_self)
      simp only [record, below, List.flatMap_cons, List.length_append, List.length_map,
        List.length_cons] at rest ⊢
      omega

/-- A list has at least as many entries as members that have any. -/
theorem length_le_length_list {items : List Entries} (filled : ∀ item ∈ items, item ≠ []) :
    items.length ≤ (list items).length := by
  unfold list
  split
  next empty => simp [List.isEmpty_iff.1 empty]
  next =>
    have inside : ∀ member ∈ numbered items, member.2 ≠ [] := by
      intro member inside
      obtain ⟨_, here, _⟩ := mem_numbered_iff.1 inside
      exact filled _ (List.mem_of_getElem? here)
    have numbers := length_le_length_record inside
    simpa [numbered, record, below] using numbers

end Entries

/-! ## The shapes of a call -/

/-- The names of the members of a dimension. -/
theorem DimensionShape.areNames (dimension : DimensionShape) :
    AreNames (dimension.members.map Prod.fst) :=
  show AreNames ["Name", "Value"] by decide

/-- The names of the members of a metric. -/
theorem MetricShape.areNames (metric : MetricShape) : AreNames (metric.members.map Prod.fst) :=
  show AreNames ["Namespace", "MetricName", "Dimensions"] by decide

/-- The names of the members of a statistic. -/
theorem StatisticShape.areNames (statistic : StatisticShape) :
    AreNames (statistic.members.map Prod.fst) :=
  show AreNames ["Metric", "Period", "Stat", "Unit"] by decide

/-- The names of the members of a metric query. -/
theorem QueryShape.areNames (query : QueryShape) : AreNames (query.members.map Prod.fst) :=
  show AreNames
    ["Id", "MetricStat", "Expression", "Label", "ReturnData", "Period", "AccountId"] by decide

/-- The names of the members of a call. -/
theorem CallShape.areNames (call : CallShape) : AreNames (call.members.map Prod.fst) :=
  show AreNames
    ["Action", "Version", "MetricDataQueries", "StartTime", "EndTime", "MaxDatapoints"] by decide

open Entries

/-- A value that may be absent is well formed. -/
theorem wellFormed_optional_one {α : Type} (write : α → String) (value : Option α) :
    (Entries.optional (fun given => .one (write given)) value).WellFormed :=
  wellFormed_optional fun _ _ => wellFormed_one _

/-- A list of what is well formed may be absent. -/
theorem wellFormed_optional_list {α : Type} {write : α → Entries}
    (wellFormed : ∀ item, (write item).WellFormed) (items : Option (List α)) :
    (Entries.optional (fun given => .list (given.map write)) items).WellFormed :=
  wellFormed_optional fun given _ => wellFormed_list <| by
    intro entries inside
    obtain ⟨item, _, rfl⟩ := List.mem_map.1 inside
    exact wellFormed item

/-- Dimensions are well formed. -/
theorem DimensionShape.wellFormed (dimension : DimensionShape) : dimension.entries.WellFormed := by
  refine wellFormed_record dimension.areNames ?_
  simp only [DimensionShape.members, List.forall_mem_cons, List.not_mem_nil, false_imp_iff,
    implies_true, and_true]
  exact ⟨wellFormed_optional_one _ _, wellFormed_optional_one _ _⟩

/-- Metrics are well formed. -/
theorem MetricShape.wellFormed (metric : MetricShape) : metric.entries.WellFormed := by
  refine wellFormed_record metric.areNames ?_
  simp only [MetricShape.members, List.forall_mem_cons, List.not_mem_nil, false_imp_iff,
    implies_true, and_true]
  exact ⟨wellFormed_optional_one _ _, wellFormed_optional_one _ _,
    wellFormed_optional_list DimensionShape.wellFormed _⟩

/-- Statistics are well formed. -/
theorem StatisticShape.wellFormed (statistic : StatisticShape) :
    statistic.entries.WellFormed := by
  refine wellFormed_record statistic.areNames ?_
  simp only [StatisticShape.members, List.forall_mem_cons, List.not_mem_nil, false_imp_iff,
    implies_true, and_true]
  exact ⟨wellFormed_optional fun metric _ => metric.wellFormed, wellFormed_optional_one _ _,
    wellFormed_optional_one _ _, wellFormed_optional_one _ _⟩

/-- Metric queries are well formed. -/
theorem QueryShape.wellFormed (query : QueryShape) : query.entries.WellFormed := by
  refine wellFormed_record query.areNames ?_
  simp only [QueryShape.members, List.forall_mem_cons, List.not_mem_nil, false_imp_iff,
    implies_true, and_true]
  exact ⟨wellFormed_optional_one _ _, wellFormed_optional fun statistic _ => statistic.wellFormed,
    wellFormed_optional_one _ _, wellFormed_optional_one _ _, wellFormed_optional_one _ _,
    wellFormed_optional_one _ _, wellFormed_optional_one _ _⟩

/-- Calls are well formed. -/
theorem CallShape.wellFormed (call : CallShape) : call.entries.WellFormed := by
  refine wellFormed_record call.areNames ?_
  simp only [CallShape.members, List.forall_mem_cons, List.not_mem_nil, false_imp_iff,
    implies_true, and_true]
  exact ⟨wellFormed_one _, wellFormed_one _, wellFormed_optional_list QueryShape.wellFormed _,
    wellFormed_optional_one _ _, wellFormed_optional_one _ _, wellFormed_optional_one _ _⟩

/-- Every value of a call has a path that its key shows. -/
theorem CallShape.isPath (call : CallShape) {entry : List String × String}
    (inside : entry ∈ call.entries) : IsPath entry.1 := by
  refine ⟨?_, call.wellFormed.names entry inside⟩
  obtain ⟨name, _, rest, _, _, named⟩ := mem_record_iff.1 inside
  exact named ▸ List.cons_ne_nil name rest

/-- No key of a form stands twice. -/
theorem nodup_keys_form (call : Call) : (call.form.map Prod.fst).Nodup := by
  have keys : call.form.map Prod.fst = (call.shape.entries.map Prod.fst).map keyText := by
    simp [Call.form, Entries.form, Function.comp_def]
  rw [keys]
  refine call.shape.wellFormed.distinct.map_on fun path member other otherMember same => ?_
  obtain ⟨entry, inside, rfl⟩ := List.mem_map.1 member
  obtain ⟨otherEntry, otherInside, rfl⟩ := List.mem_map.1 otherMember
  exact (keyText_inj (call.shape.isPath inside) (call.shape.isPath otherInside)).1 same

end MetricProbe.CloudWatch

import MetricProbe.Proofs.Json.Records
import MetricProbe.Proofs.Json.Slots
import Mathlib.Data.List.Pairwise

/-!
# Records with several fields

A row has a slot for each of its names. In an object a slot holds the value of the one member that
has its name in either spelling; in an array the slots hold the items in their order, and those at
the end may be empty. `Row` says that a value, as it is written, is a row whose slots hold what they
accept, whatever the order of the members is.

A record is a `Table` if each of its fields fills a place of its own in the draft. Such a record
accepts exactly the rows whose slots hold what the fields fit, and what a slot holds is all that the
result says about it. A record with a single field is a table of one column.
-/

namespace MetricProbe.Json

/-! ## Rows -/

/-- The spellings of the name of a member. -/
structure Naming where
  name : String
  otherName : Option String
  deriving DecidableEq

namespace Naming

/-- The spellings as a list. -/
def names (naming : Naming) : List String :=
  naming.name :: naming.otherName.toList

/-- Whether letters mean a spelling of the name. -/
def covers (naming : Naming) (letters : List Letter) : Bool :=
  naming.names.any (Names · letters)

/-- The values of the members that have the name. -/
def values (naming : Naming) (members : List (List Letter × Spelling)) : List Spelling :=
  (members.filter (naming.covers ·.1)).map (·.2)

/-- Two names have no spelling in common. -/
def Apart (naming other : Naming) : Prop :=
  ∀ name ∈ naming.names, name ∉ other.names

instance (naming other : Naming) : Decidable (naming.Apart other) :=
  inferInstanceAs (Decidable (∀ name ∈ naming.names, name ∉ other.names))

end Naming

/-- A slot of a row: its name, and what it accepts as its content. -/
structure Slot extends Naming where
  accepts : Option Spelling → Prop

/-- A value is a row of slots that accept what they hold. -/
inductive Row (slots : List Slot) : Spelling → Prop where
  | object {members : List (List Letter × Spelling)}
      (meant : ∀ member ∈ members, (meaning? member.1).isSome = true)
      (held : ∀ slot ∈ slots, ∃ content : Option Spelling,
        slot.values members = content.toList ∧ slot.accepts content) :
      Row slots (.object members)
  | array {items : List Spelling} {missing : Nat}
      (held : List.Forall₂ (fun slot content => slot.accepts content) slots
        (items.map some ++ List.replicate missing none)) :
      Row slots (.array items)

/-! ## Names -/

section

variable {naming other : Naming} {letters : List Letter}

/-- Letters have a name exactly if they mean one of its spellings. -/
theorem Naming.covers_iff :
    naming.covers letters = true ↔ ∃ name ∈ naming.names, meaning? letters = some name.toList := by
  simp [covers, Names]

/-- Letters do not have two names that are apart. -/
theorem Naming.Apart.covers_eq_false (apart : naming.Apart other)
    (covered : naming.covers letters = true) : other.covers letters = false := by
  obtain ⟨name, inside, meant⟩ := covers_iff.1 covered
  rw [Bool.eq_false_iff]
  intro both
  obtain ⟨otherName, insideOther, meantOther⟩ := covers_iff.1 both
  have same : name = otherName := String.ext (Option.some.inj (meant.symm.trans meantOther))
  exact apart name inside (same ▸ insideOther)

/-- To be apart is mutual. -/
theorem Naming.Apart.symm (apart : naming.Apart other) : other.Apart naming :=
  fun name inside insideOther => apart name insideOther inside

variable {key : List Letter} {tree : Spelling} {members : List (List Letter × Spelling)}

/-- A member with the name comes first among the values. -/
theorem Naming.values_cons_of_covers (covered : naming.covers key = true) :
    naming.values ((key, tree) :: members) = tree :: naming.values members := by
  simp [values, covered]

/-- A member without the name does not come among the values. -/
theorem Naming.values_cons_of_not_covers (uncovered : naming.covers key = false) :
    naming.values ((key, tree) :: members) = naming.values members := by
  simp [values, uncovered]

end

/-! ## Rows of one slot -/

/-- The values of a name with a single spelling are those of the members with that name. -/
theorem Naming.values_single {name : String} {members : List (List Letter × Spelling)} :
    (⟨name, none⟩ : Naming).values members =
      (members.filter (Names name ·.1)).map (·.2) := by
  simp [values, covers, names]

/-- A row of one slot accepts what has that slot, if it accepts the content. -/
theorem row_single_iff {name : String} {accepts : Option Spelling → Prop} {tree : Spelling} :
    Row [⟨⟨name, none⟩, accepts⟩] tree ↔
      ∃ content, Holds name tree content ∧ accepts content := by
  constructor
  · intro row
    cases row with
    | object meant held =>
        obtain ⟨content, values, accepted⟩ := held _ List.mem_cons_self
        rw [Naming.values_single] at values
        exact ⟨content, .object meant values, accepted⟩
    | @array items missing held =>
        obtain ⟨content, _, accepted, rest, contents⟩ := List.forall₂_cons_left_iff.1 held
        rw [List.forall₂_nil_left_iff.1 rest] at contents
        refine ⟨content, .array ?_, accepted⟩
        rcases items with _ | ⟨item, items⟩
        · rcases missing with _ | missing
          · cases contents
          · obtain ⟨rfl, _⟩ := List.cons.inj contents
            rfl
        · obtain ⟨rfl, others⟩ := List.cons.inj contents
          obtain ⟨none, _⟩ := List.append_eq_nil_iff.1 others
          rw [List.map_eq_nil_iff.1 none]
          rfl
  · rintro ⟨content, holds, accepted⟩
    cases holds with
    | object meant held =>
        refine .object meant ?_
        rintro _ ⟨⟩
        · exact ⟨content, Naming.values_single.trans held, accepted⟩
        · contradiction
    | array held =>
        subst held
        cases content with
        | none => exact @Row.array _ [] 1 (.cons accepted .nil)
        | some item => exact @Row.array _ [item] 0 (.cons accepted .nil)

/-! ## Tables -/

variable {draft value : Type}

/-- A column of a table: the name of a field, its place in the draft, how its value is read and what
fits it, and what a result says about what is in the place. -/
structure Column (draft value : Type) extends Naming where
  Content : Type
  required : Bool
  get : draft → Option Content
  set : draft → Content → draft
  read : Nat → Reader Content
  fits : Spelling → Content → Prop
  tells : value → Option Content → Prop

namespace Column

/-- The field that fills the place of a column. -/
def field (column : Column draft value) : Field draft where
  name := column.name
  otherName := column.otherName
  required := column.required
  filled := fun state => (column.get state).isSome
  fill := fun depth state => do
    let content ← column.read depth
    pure (column.set state content)

/-- The slot that holds what a column is for in a result. -/
def slot (column : Column draft value) (result : value) : Slot where
  toNaming := column.toNaming
  accepts := fun content =>
    ∃ shown, Option.Rel column.fits content shown ∧ column.tells result shown

/-- Two columns have no spelling of their names in common and different places. -/
structure Apart (column other : Column draft value) : Prop where
  names : column.toNaming.Apart other.toNaming
  keeps : ∀ state content, column.get (other.set state content) = column.get state
  kept : ∀ state content, other.get (column.set state content) = other.get state

/-- To be apart is mutual. -/
instance : Std.Symm (@Apart draft value) where
  symm _ _ apart := ⟨apart.names.symm, apart.kept, apart.keeps⟩

/-- The place of a column holds what fits the content of a slot. -/
def Holds (final : draft) (column : Column draft value) (content : Option Spelling) : Prop :=
  Option.Rel column.fits content (column.get final)

section

variable {column : Column draft value} {state next final : draft} {values : List Spelling}
  {tree : Spelling}

/-- The values of the members with the name of a column bring its place from one draft to another:
there is none and the place is kept, or there is one, the place was free and holds it. -/
inductive Gains (column : Column draft value) (state final : draft) : List Spelling → Prop where
  | kept (same : column.get final = column.get state) : Gains column state final []
  | gained {tree : Spelling} {content : column.Content} (fresh : column.get state = none)
      (fit : column.fits tree content) (held : column.get final = some content) :
      Gains column state final [tree]

/-- The place is empty exactly if there is no content. -/
theorem holds_none_iff : column.Holds final none ↔ column.get final = none := by
  rw [Holds]
  cases column.get final with
  | none => exact ⟨fun _ => rfl, fun _ => .none⟩
  | some content => exact ⟨nofun, nofun⟩

/-- The place holds what fits a content. -/
theorem holds_some_iff : column.Holds final (some tree) ↔
    ∃ content, column.fits tree content ∧ column.get final = some content := by
  rw [Holds]
  cases column.get final with
  | none => exact ⟨nofun, fun ⟨_, _, held⟩ => nomatch held⟩
  | some content =>
      constructor
      · rintro ⟨⟩
        exact ⟨content, ‹_›, rfl⟩
      · rintro ⟨_, fit, ⟨⟩⟩
        exact .some fit

/-- A column gains what a slot holds exactly if it was free and holds that. -/
theorem gains_toList_iff {content : Option Spelling} (free : column.get state = none) :
    column.Gains state final content.toList ↔ column.Holds final content := by
  cases content with
  | none =>
      rw [holds_none_iff, ← free]
      constructor
      · rintro ⟨⟩
        assumption
      · exact .kept
  | some tree =>
      rw [holds_some_iff]
      constructor
      · rintro (_ | ⟨_, fit, held⟩)
        exact ⟨_, fit, held⟩
      · rintro ⟨content, fit, held⟩
        exact .gained free fit held

/-- What a column gains is the content of a slot. -/
theorem Gains.exists_toList (gains : Gains column state final values) :
    ∃ content : Option Spelling, values = content.toList := by
  cases gains with
  | kept => exact ⟨none, rfl⟩
  | @gained tree => exact ⟨some tree, rfl⟩

/-- What a column gains depends on nothing but its place. -/
theorem Gains.of_get_eq (gains : Gains column next final values)
    (same : column.get next = column.get state) : Gains column state final values := by
  cases gains with
  | kept kept => exact .kept (kept.trans same)
  | gained free fit held => exact .gained (same ▸ free) fit held

/-- A value that fills a free place is all that the column gains. -/
theorem Gains.head {content : column.Content} (gains : Gains column next final values)
    (free : column.get state = none) (fit : column.fits tree content)
    (held : column.get next = some content) : Gains column state final (tree :: values) := by
  cases gains with
  | kept kept => exact .gained free fit (kept.trans held)
  | gained freeNext => cases held.symm.trans freeNext

/-- If a column gains a value it is the only one. -/
theorem Gains.of_cons (gains : Gains column state final (tree :: values)) :
    column.get state = none ∧ ∃ content, column.fits tree content ∧
      column.get final = some content ∧ values = [] := by
  cases gains with
  | gained free fit held => exact ⟨free, _, fit, held, rfl⟩

end

end Column

/-- What the fields of a table take. -/
def takesColumns (columns : List (Column draft value)) : Taking draft :=
  fun field state tree next => ∃ column ∈ columns, column.field = field ∧
    ∃ content, column.fits tree content ∧ next = column.set state content

/-- A record whose fields fill places of their own, and whose result says everything about them. -/
structure Table (record : Record draft value) (columns : List (Column draft value)) : Prop where
  fields : record.fields = columns.map Column.field
  apart : columns.Pairwise Column.Apart
  empty : ∀ column ∈ columns, column.get record.empty = none
  get_set : ∀ column ∈ columns, ∀ state content,
    column.get (column.set state content) = some content
  determined : ∀ state other, (∀ column ∈ columns, column.get state = column.get other) →
    state = other
  finish : ∀ state result, record.finish state = .ok result ↔
    ∀ column ∈ columns, column.tells result (column.get state)
  needed : ∀ column ∈ columns, column.required = true → ∀ result, ¬ column.tells result none

namespace Table

variable {record : Record draft value} {columns : List (Column draft value)}
  {state final : draft}

/-- Different columns are apart. -/
theorem apart_of_ne (table : Table record columns) {column other : Column draft value}
    (inside : column ∈ columns) (insideOther : other ∈ columns) (different : column ≠ other) :
    column.Apart other :=
  table.apart.forall inside insideOther different

/-- A column is apart from those behind it and from those before it. -/
theorem apart_of_split (table : Table record columns) {column : Column draft value}
    {earlier later : List (Column draft value)} (whole : columns = earlier ++ column :: later) :
    (∀ other ∈ later, column.Apart other) ∧ ∀ other ∈ earlier, other.Apart column := by
  have pairs := table.apart
  rw [whole, List.pairwise_append, List.pairwise_cons] at pairs
  exact ⟨pairs.2.1.1, fun other known => pairs.2.2 other known column List.mem_cons_self⟩

/-- A column is known by its field. -/
theorem eq_of_field (table : Table record columns) {column other : Column draft value}
    (inside : column ∈ columns) (insideOther : other ∈ columns)
    (same : column.field = other.field) : column = other := by
  by_contra different
  have apart := (table.apart_of_ne inside insideOther different).names
  have name : column.name = other.name := congrArg Field.name same
  exact apart column.name List.mem_cons_self (name ▸ List.mem_cons_self)

/-- The field of a column takes what fits the column into its place. -/
theorem takes_iff (table : Table record columns) {column : Column draft value}
    (inside : column ∈ columns) {tree : Spelling} {next : draft} :
    takesColumns columns column.field state tree next ↔
      ∃ content, column.fits tree content ∧ next = column.set state content := by
  constructor
  · rintro ⟨other, insideOther, same, taken⟩
    obtain rfl := table.eq_of_field insideOther inside same
    exact taken
  · intro taken
    exact ⟨column, inside, rfl, taken⟩

/-- The fields are read if the columns are. -/
theorem filling (table : Table record columns) {depth : Nat}
    (reads : ∀ column ∈ columns, Reads (column.read depth) column.fits) :
    record.Filling depth (takesColumns columns) := by
  intro field known state
  rw [table.fields] at known
  obtain ⟨column, inside, rfl⟩ := List.mem_map.1 known
  refine ((reads column inside).map (column.set state)).congr fun tree next => ?_
  exact (table.takes_iff inside).symm

/-! ### Members -/

/-- The field of a column answers to the spellings of its name. -/
theorem answersTo_eq_covers (column : Column draft value) {letters : List Letter}
    {chars : List Char} (meant : meaning? letters = some chars) :
    column.field.answersTo (String.ofList chars) = column.covers letters := by
  have means : ∀ name : String, Names name letters = (String.ofList chars == name) := by
    intro name
    rw [Names, meant, Bool.eq_iff_iff]
    simp [String.ext_iff]
  rw [Field.answersTo, Naming.covers, Naming.names, List.any_cons, means]
  refine congrArg _ ?_
  change (column.otherName == some (String.ofList chars)) = _
  cases column.otherName with
  | none => rfl
  | some name =>
      rw [Option.toList_some, List.any_cons, List.any_nil, Bool.or_false, means,
        Option.some_beq_some]
      exact BEq.comm

/-- The field that a key names is that of the first column with the name. -/
theorem find?_eq_map (table : Table record columns) {letters : List Letter} {chars : List Char}
    (meant : meaning? letters = some chars) :
    record.fields.find? (·.answersTo (String.ofList chars)) =
      (columns.find? (·.covers letters)).map Column.field := by
  rw [table.fields, List.find?_map]
  congr 2
  funext column
  exact answersTo_eq_covers column meant

/-- A column is found under a name exactly if it has the name: no other has it. -/
theorem find?_covers_iff (table : Table record columns) {letters : List Letter}
    {column : Column draft value} :
    columns.find? (·.covers letters) = some column ↔
      column ∈ columns ∧ column.covers letters = true := by
  constructor
  · intro found
    exact ⟨List.mem_of_find?_eq_some found, by simpa using List.find?_some found⟩
  · rintro ⟨inside, covers⟩
    cases found : columns.find? (·.covers letters) with
    | none => exact (List.find?_eq_none.1 found column inside covers).elim
    | some other =>
        have coversOther : other.covers letters = true := by simpa using List.find?_some found
        by_contra different
        have apart := table.apart_of_ne inside (List.mem_of_find?_eq_some found)
          (fun same => different (same ▸ rfl))
        rw [apart.names.covers_eq_false covers] at coversOther
        cases coversOther

/-- A member is admitted exactly if its key means a text and either a column has the name, its place
is free and the value fits it, or no column has the name. -/
theorem admits_iff (table : Table record columns) {key : List Letter} {tree : Spelling}
    {next : draft} :
    Admits record (takesColumns columns) state (key, tree) next ↔
      (meaning? key).isSome = true ∧
        ((∃ column ∈ columns, column.covers key = true ∧ column.get state = none ∧
          ∃ content, column.fits tree content ∧ next = column.set state content) ∨
            (∀ column ∈ columns, column.covers key = false) ∧ next = state) := by
  constructor
  · intro admits
    cases admits with
    | known meant found fresh taken =>
        rw [table.find?_eq_map meant, Option.map_eq_some_iff] at found
        obtain ⟨column, found, rfl⟩ := found
        obtain ⟨inside, covers⟩ := table.find?_covers_iff.1 found
        have free : column.get state = none := by simpa [Column.field] using fresh
        exact ⟨by rw [meant]; rfl,
          .inl ⟨column, inside, covers, free, (table.takes_iff inside).1 taken⟩⟩
    | unknown meant unnamed =>
        rw [table.find?_eq_map meant, Option.map_eq_none_iff, List.find?_eq_none] at unnamed
        exact ⟨by rw [meant]; rfl, .inr ⟨by simpa using unnamed, rfl⟩⟩
  · rintro ⟨decodes, taken⟩
    obtain ⟨chars, meant⟩ := Option.isSome_iff_exists.1 decodes
    rcases taken with ⟨column, inside, covers, free, taken⟩ | ⟨uncovered, rfl⟩
    · have found := table.find?_covers_iff.2 ⟨inside, covers⟩
      refine .known meant (by rw [table.find?_eq_map meant, found]; rfl) ?_
        ((table.takes_iff inside).2 taken)
      simp [Column.field, free]
    · refine .unknown meant ?_
      rw [table.find?_eq_map meant, Option.map_eq_none_iff, List.find?_eq_none]
      simpa using uncovered

/-- The members of an object bring a draft to another exactly if their keys mean texts and each
column gains what the members with its name bring. -/
theorem filled_iff (table : Table record columns) {members : List (List Letter × Spelling)} :
    Filled record (takesColumns columns) state members final ↔
      (∀ member ∈ members, (meaning? member.1).isSome = true) ∧
        ∀ column ∈ columns, column.Gains state final (column.values members) := by
  induction members generalizing state with
  | nil =>
      constructor
      · rintro ⟨⟩
        exact ⟨nofun, fun column _ => .kept rfl⟩
      · rintro ⟨_, gains⟩
        obtain rfl : final = state := by
          refine table.determined _ _ fun column inside => ?_
          cases gains column inside with
          | kept same => exact same
        exact .nil
  | cons member members inductionHypothesis =>
      obtain ⟨key, tree⟩ := member
      simp only [filled_cons_iff, table.admits_iff, List.forall_mem_cons, inductionHypothesis]
      constructor
      · rintro ⟨next, ⟨decodes, taken⟩, meant, gains⟩
        refine ⟨⟨decodes, meant⟩, fun other insideOther => ?_⟩
        have later := gains other insideOther
        rcases taken with ⟨column, inside, covers, free, content, fit, rfl⟩ | ⟨uncovered, rfl⟩
        · by_cases same : column = other
          · subst same
            rw [Naming.values_cons_of_covers covers]
            exact later.head free fit (table.get_set column inside state content)
          · have apart := table.apart_of_ne inside insideOther same
            rw [Naming.values_cons_of_not_covers (apart.names.covers_eq_false covers)]
            exact later.of_get_eq (apart.kept state content)
        · rwa [Naming.values_cons_of_not_covers (uncovered other insideOther)]
      · rintro ⟨⟨decodes, meant⟩, gains⟩
        by_cases uncovered : ∀ column ∈ columns, column.covers key = false
        · refine ⟨state, ⟨decodes, .inr ⟨uncovered, rfl⟩⟩, meant, fun column inside => ?_⟩
          have gained := gains column inside
          rwa [Naming.values_cons_of_not_covers (uncovered column inside)] at gained
        · -- The first value that a column gains fills its place, and nothing may come after it.
          push Not at uncovered
          obtain ⟨column, inside, covers⟩ := uncovered
          replace covers : column.covers key = true := by simpa using covers
          have gained := gains column inside
          rw [Naming.values_cons_of_covers covers] at gained
          obtain ⟨free, content, fit, held, none⟩ := gained.of_cons
          refine ⟨column.set state content, ⟨decodes, .inl ⟨column, inside, covers, free, content,
            fit, rfl⟩⟩, meant, fun other insideOther => ?_⟩
          by_cases same : column = other
          · subst same
            rw [none]
            exact .kept (held.trans (table.get_set column inside state content).symm)
          · have apart := table.apart_of_ne inside insideOther same
            have later := gains other insideOther
            rw [Naming.values_cons_of_not_covers (apart.names.covers_eq_false covers)] at later
            exact later.of_get_eq (apart.kept state content).symm

/-! ### Items -/

/-- The fields of the last columns are filled from the items of an array, one after the other, and
the other places are kept. -/
theorem placed_iff (table : Table record columns) {earlier later : List (Column draft value)}
    (whole : columns = earlier ++ later) (free : ∀ column ∈ later, column.get state = none)
    {items : List Spelling} :
    Placed (takesColumns columns) (later.map Column.field) state items final ↔
      (∃ missing, List.Forall₂ (fun column content => column.Holds final content ∧
        (content = none → column.required = false)) later
          (items.map some ++ List.replicate missing none)) ∧
          ∀ column ∈ earlier, column.get final = column.get state := by
  -- Filling moves the column from the later ones to the earlier ones, whose places are kept.
  induction later generalizing earlier state items with
  | nil =>
      rw [List.append_nil] at whole
      subst whole
      constructor
      · rintro ⟨⟩
        exact ⟨⟨0, .nil⟩, fun _ _ => rfl⟩
      · rintro ⟨⟨missing, brings⟩, kept⟩
        obtain rfl := table.determined _ _ kept
        obtain ⟨nothing, _⟩ := List.append_eq_nil_iff.1 ((List.forall₂_nil_left_iff).1 brings)
        obtain rfl := List.map_eq_nil_iff.1 nothing
        exact .done
  | cons column later inductionHypothesis =>
      have inside : column ∈ columns := by simp [whole]
      have behind : columns = (earlier ++ [column]) ++ later := by simp [whole]
      obtain ⟨apartLater, apartEarlier⟩ := table.apart_of_split whole
      obtain ⟨freeHere, freeLater⟩ := List.forall_mem_cons.1 free
      cases items with
      | nil =>
          have later := @inductionHypothesis state (earlier ++ [column]) behind freeLater []
          simp only [List.forall_mem_append, List.forall_mem_singleton] at later
          constructor
          · intro placed
            cases placed with
            | omitted optional placed =>
                obtain ⟨⟨missing, brings⟩, kept, same⟩ := later.1 placed
                refine ⟨⟨missing + 1, .cons ⟨?_, fun _ => optional⟩ brings⟩, kept⟩
                rw [Column.Holds, same, freeHere]
                exact .none
          · rintro ⟨⟨missing, brings⟩, kept⟩
            cases missing with
            | zero => cases brings
            | succ missing =>
                cases brings with
                | cons brought brings =>
                    obtain ⟨nothing, optional⟩ := brought
                    have same : column.get final = column.get state := by
                      rw [freeHere, Column.holds_none_iff.1 nothing]
                    exact .omitted (optional rfl) (later.2 ⟨⟨missing, brings⟩, kept, same⟩)
      | cons item items =>
          have later : ∀ content, _ := fun content =>
            @inductionHypothesis (column.set state content) (earlier ++ [column]) behind
              (fun other known => ((apartLater other known).kept state content).trans
                (freeLater other known)) items
          simp only [List.forall_mem_append, List.forall_mem_singleton] at later
          constructor
          · intro placed
            cases placed with
            | given taken placed =>
                obtain ⟨content, fit, rfl⟩ := (table.takes_iff inside).1 taken
                obtain ⟨⟨missing, brings⟩, kept, held⟩ := (later content).1 placed
                refine ⟨⟨missing, .cons ⟨?_, nofun⟩ brings⟩, fun other known => ?_⟩
                · rw [Column.Holds, held, table.get_set column inside]
                  exact .some fit
                · rw [kept other known, (apartEarlier other known).keeps]
          · rintro ⟨⟨missing, brings⟩, kept⟩
            cases brings with
            | cons brought brings =>
                obtain ⟨content, fit, held⟩ := Column.holds_some_iff.1 brought.1
                refine .given ((table.takes_iff inside).2 ⟨content, fit, rfl⟩)
                  ((later content).2 ⟨⟨missing, brings⟩, fun other known => ?_, ?_⟩)
                · rw [kept other known, (apartEarlier other known).keeps]
                · rw [held, table.get_set column inside]

/-! ### Whole records -/

/-- If the slots of a result hold contents there is a draft whose places hold them too. -/
theorem exists_draft (table : Table record columns) {result : value}
    {earlier later : List (Column draft value)} (whole : columns = earlier ++ later)
    {contents : List (Option Spelling)}
    (held : List.Forall₂ (fun column content => (column.slot result).accepts content) later
      contents) :
    ∃ final, List.Forall₂ (fun column content => column.Holds final content ∧
        column.tells result (column.get final)) later contents ∧
      ∀ column ∈ earlier, column.get final = none := by
  induction later generalizing earlier contents with
  | nil =>
      cases held
      exact ⟨record.empty, .nil, fun column known => table.empty column (by simp [whole, known])⟩
  | cons column later inductionHypothesis =>
      cases held with
      | cons accepted held =>
          have behind : columns = (earlier ++ [column]) ++ later := by simp [whole]
          have inside : column ∈ columns := by simp [whole]
          obtain ⟨apartLater, apartEarlier⟩ := table.apart_of_split whole
          obtain ⟨final, heldLater, free⟩ := inductionHypothesis behind held
          simp only [List.forall_mem_append, List.forall_mem_singleton] at free
          obtain ⟨shown, fit, told⟩ := accepted
          cases shown with
          | none =>
              rw [← free.2] at fit told
              exact ⟨final, .cons ⟨fit, told⟩ heldLater, free.1⟩
          | some content =>
              refine ⟨column.set final content, .cons ⟨?_, ?_⟩ ?_, fun other known => ?_⟩
              · rwa [Column.Holds, table.get_set column inside]
              · rwa [table.get_set column inside]
              · refine (List.forall₂_and_left later _).2 ⟨apartLater, heldLater⟩ |>.imp ?_
                rintro other slot ⟨apart, kept⟩
                rwa [Column.Holds, apart.kept]
              · rw [(apartEarlier other known).keeps, free.1 other known]

/-- An object is accepted exactly if it is a row whose slots hold what the columns fit. -/
theorem fits_object_iff (table : Table record columns)
    {members : List (List Letter × Spelling)} {result : value} :
    record.Fits (takesColumns columns) (.object members) result ↔
      Row (columns.map (·.slot result)) (.object members) := by
  constructor
  · intro fits
    cases fits with
    | @object _ state _ filled finished =>
        obtain ⟨meant, gains⟩ := table.filled_iff.1 filled
        refine .object meant (List.forall_mem_map.2 fun column inside => ?_)
        have gained := gains column inside
        obtain ⟨content, held⟩ := gained.exists_toList
        rw [held, Column.gains_toList_iff (table.empty column inside)] at gained
        exact ⟨content, held, column.get state, gained, (table.finish _ _).1 finished column inside⟩
  · intro row
    cases row with
    | object meant held =>
        rw [List.forall_mem_map] at held
        have first : ∀ column ∈ columns, column.values members =
            (column.values members).head?.toList ∧
              (column.slot result).accepts (column.values members).head? := by
          intro column inside
          obtain ⟨content, values, accepted⟩ := held column inside
          change column.values members = content.toList at values
          have head : (column.values members).head? = content := by
            rw [values]
            cases content <;> rfl
          exact ⟨by rw [head, values], by rwa [head]⟩
        obtain ⟨final, holds, _⟩ := table.exists_draft (List.nil_append columns).symm
          (List.forall₂_map_right_iff.2 (List.forall₂_same.2 fun column inside =>
            (first column inside).2))
        rw [List.forall₂_map_right_iff, List.forall₂_same] at holds
        refine .object (table.filled_iff.2 ⟨meant, fun column inside => ?_⟩)
          ((table.finish _ _).2 fun column inside => (holds column inside).2)
        rw [(first column inside).1, Column.gains_toList_iff (table.empty column inside)]
        exact (holds column inside).1

/-- An array is accepted exactly if it is a row whose slots hold what the columns fit. -/
theorem fits_array_iff (table : Table record columns) {items : List Spelling} {result : value} :
    record.Fits (takesColumns columns) (.array items) result ↔
      Row (columns.map (·.slot result)) (.array items) := by
  constructor
  · intro fits
    cases fits with
    | @array _ state _ placed finished =>
        rw [table.fields] at placed
        obtain ⟨⟨missing, held⟩, _⟩ :=
          (table.placed_iff (List.nil_append columns).symm table.empty).1 placed
        have told := (table.finish _ _).1 finished
        refine @Row.array _ items missing (List.forall₂_map_left_iff.2 ?_)
        refine ((List.forall₂_and_left _ _).2 ⟨told, held⟩).imp ?_
        rintro column content ⟨told, holds, _⟩
        exact ⟨column.get state, holds, told⟩
  · intro row
    cases row with
    | @array _ missing held =>
        rw [List.forall₂_map_left_iff] at held
        obtain ⟨final, holds, _⟩ := table.exists_draft (List.nil_append columns).symm held
        obtain ⟨told, filled⟩ :=
          (List.forall₂_and_left columns _).1 (holds.imp fun _ _ both => ⟨both.2, both.1⟩)
        have placed : Placed (takesColumns columns) (columns.map Column.field) record.empty items
            final := by
          refine (table.placed_iff (List.nil_append columns).symm table.empty).2
            ⟨⟨missing, ?_⟩, nofun⟩
          refine ((List.forall₂_and_left columns _).2 ⟨fun column inside => inside, filled⟩).imp ?_
          rintro column content ⟨inside, holds⟩
          refine ⟨holds, fun nothing => ?_⟩
          subst nothing
          -- A required column without content could not be told by the result.
          rw [← Bool.not_eq_true]
          intro required
          have empty := told column inside
          rw [Column.holds_none_iff.1 holds] at empty
          exact table.needed column inside required result empty
        rw [← table.fields] at placed
        exact .array placed ((table.finish _ _).2 told)

/-- A record accepts exactly the rows whose slots hold what its columns fit, and its result tells
what they hold. -/
theorem fits_iff (table : Table record columns) {tree : Spelling} {result : value} :
    record.Fits (takesColumns columns) tree result ↔ Row (columns.map (·.slot result)) tree := by
  cases tree with
  | object members => exact table.fits_object_iff
  | array items => exact table.fits_array_iff
  | null | boolean | number | text => exact iff_of_false nofun nofun

/-- A record is read if its columns are. -/
theorem reads (table : Table record columns) {depth : Nat} (deep : 1 < depth)
    (reads : ∀ column ∈ columns, Reads (column.read (depth - 1)) column.fits) :
    Reads (record.read depth) fun tree result => Row (columns.map (·.slot result)) tree :=
  (reads_record deep (table.filling reads)).congr fun _ _ => table.fits_iff

end Table

/-! ## Kinds of columns -/

section

variable {α : Type}

/-- The content of a slot that must be there is what fits a value. -/
def Given (fits : Spelling → α → Prop) (content : Option Spelling) (value : α) : Prop :=
  ∃ tree, content = some tree ∧ fits tree value

/-- The content of a slot that may be left out is what fits a value, or nothing for the default. -/
inductive OrElse (fits : Spelling → α → Prop) (default : α) : Option Spelling → α → Prop where
  | absent : OrElse fits default none default
  | present {tree : Spelling} {value : α} (fit : fits tree value) :
      OrElse fits default (some tree) value

/-- A column that must be there; the result has its content. -/
def Column.needed (naming : Naming) (get : draft → Option α) (set : draft → α → draft)
    (read : Nat → Reader α) (fits : Spelling → α → Prop) (told : value → α) :
    Column draft value where
  toNaming := naming
  Content := α
  required := true
  get := get
  set := set
  read := read
  fits := fits
  tells := fun result place => place = some (told result)

/-- A column that may be left out; the result has its content or the default. -/
def Column.defaulted (naming : Naming) (default : α) (get : draft → Option α)
    (set : draft → α → draft) (read : Nat → Reader α) (fits : Spelling → α → Prop)
    (told : value → α) : Column draft value where
  toNaming := naming
  Content := α
  required := false
  get := get
  set := set
  read := read
  fits := fits
  tells := fun result place => place.getD default = told result

variable {naming : Naming} {default : α} {get : draft → Option α} {set : draft → α → draft}
  {read : Nat → Reader α} {fits : Spelling → α → Prop} {told : value → α} {result : value}

/-- The slot of a column that must be there. -/
theorem Column.slot_needed :
    (Column.needed naming get set read fits told).slot result =
      ⟨naming, (Given fits · (told result))⟩ := by
  refine congrArg (Slot.mk naming) (funext fun content => propext ?_)
  constructor
  · rintro ⟨_, fit, rfl⟩
    cases fit with
    | some fit => exact ⟨_, rfl, fit⟩
  · rintro ⟨tree, rfl, fit⟩
    exact ⟨_, .some fit, rfl⟩

/-- The slot of a column that may be left out. -/
theorem Column.slot_defaulted :
    (Column.defaulted naming default get set read fits told).slot result =
      ⟨naming, (OrElse fits default · (told result))⟩ := by
  refine congrArg (Slot.mk naming) (funext fun content => propext ?_)
  constructor
  · rintro ⟨_, fit, told⟩
    cases fit with
    | some fit => exact told ▸ .present fit
    | none => exact told ▸ .absent
  · intro fit
    generalize shown : told result = value at fit
    cases fit with
    | absent => exact ⟨none, .none, shown.symm⟩
    | present fit => exact ⟨some value, .some fit, shown.symm⟩

variable {tree : Spelling} {content : α}

/-- What is given is a value that fits. -/
theorem given_some_iff :
    Given fits (some tree) content ↔ fits tree content := by
  constructor
  · rintro ⟨_, ⟨⟩, fit⟩
    exact fit
  · intro fit
    exact ⟨tree, rfl, fit⟩

/-- What is not left out is a value that fits. -/
theorem orElse_some_iff :
    OrElse fits default (some tree) content ↔ fits tree content := by
  constructor
  · rintro ⟨⟩
    assumption
  · exact .present

/-- A list that may be left out or null is empty in both cases. -/
theorem orElse_listOrNull_iff {slot : Option Spelling} {values : List α} :
    OrElse (ListOrNull fits) [] slot values ↔ MayList fits slot values := by
  cases slot with
  | none =>
      constructor <;> rintro ⟨⟩
      · exact .missing
      · exact .absent
  | some tree => rw [orElse_some_iff, mayList_some_iff]

end

/-! ## Tables of one column -/

section

variable {record : Record draft value} {column : Column draft value} {depth : Nat}

/-- A record with a single field is a table. -/
theorem table_single (fields : record.fields = [column.field])
    (empty : column.get record.empty = none)
    (get_set : ∀ state content, column.get (column.set state content) = some content)
    (determined : ∀ state other, column.get state = column.get other → state = other)
    (finish : ∀ state result, record.finish state = .ok result ↔
      column.tells result (column.get state))
    (needed : column.required = true → ∀ result, ¬ column.tells result none) :
    Table record [column] where
  fields := fields
  apart := List.pairwise_singleton _ _
  empty := List.forall_mem_singleton.2 empty
  get_set := List.forall_mem_singleton.2 get_set
  determined state other same := determined state other (same column List.mem_cons_self)
  finish state result := by rw [finish, List.forall_mem_singleton]
  needed := List.forall_mem_singleton.2 needed

/-- A record with a single field is read from what has a slot that accepts its content. -/
theorem Table.reads_single {name : String} {accepts : value → Option Spelling → Prop}
    (table : Table record [column])
    (slot : ∀ result, column.slot result = ⟨⟨name, none⟩, accepts result⟩) (deep : 1 < depth)
    (reads : Reads (column.read (depth - 1)) column.fits) :
    Reads (record.read depth) fun tree result =>
      ∃ content, Holds name tree content ∧ accepts result content := by
  refine (table.reads deep (List.forall_mem_singleton.2 reads)).congr fun tree result => ?_
  rw [List.map_singleton, slot, row_single_iff]

end

end MetricProbe.Json

import MetricProbe.Proofs.CloudWatch.Entries

/-!
# Reading forms

A service reads a call by the keys of its form: it asks for the value of a key, and for the members
of a list one number after the other. The readers here know the keys and nothing else, neither the
order of the entries nor how a form is written.

`Form.Shows` is what a reader relies on: the keys below a path lead to given entries. It holds of a
whole form at the empty path, and going down by a name keeps it.
-/

namespace MetricProbe.CloudWatch

/-- The key of a member. -/
def memberKey (key name : String) : String := key ++ "." ++ name

/-- The truth value that a text stands for. -/
def readBoolean? (text : String) : Option Bool :=
  if text = "true" then some true else if text = "false" then some false else none

/-- A truth value is read back. -/
theorem readBoolean?_writeBoolean (value : Bool) : readBoolean? (writeBoolean value) = some value := by
  cases value <;> decide

/-- What is read back one by one is read back if it may be absent. -/
theorem bind_map_of_reads {α : Type} {write : α → String} {read? : String → Option α}
    (reads : ∀ value, read? (write value) = some value) (value : Option α) :
    (value.map write).bind read? = value := by
  cases value with
  | none => rfl
  | some value => exact reads value

namespace Form

/-! ## Readers -/

/-- The value of a key, if the form has it. -/
def value? (form : Form) (key : String) : Option String := form.lookup key

/-- The members of a list in the order of their numbers, up to the first number without a member. No
list has more members than the form has entries. -/
def members {α : Type} (form : Form) (key : String) (read? : String → Option α) : List α :=
  (((List.range form.length).map fun index =>
    read? (memberKey (memberKey key "member") (toString (index + 1)))).takeWhile
      Option.isSome).filterMap id

/-- The dimension at a key. -/
def dimension? (form : Form) (key : String) : Option Dimension := do
  let name ← form.value? (memberKey key "Name")
  let value ← form.value? (memberKey key "Value")
  pure ⟨name, value⟩

/-- The metric at a key. -/
def metric (form : Form) (key : String) : Metric where
  namespaceName := form.value? (memberKey key "Namespace")
  metricName := form.value? (memberKey key "MetricName")
  dimensions := form.members (memberKey key "Dimensions") form.dimension?

/-- The statistic at a key. -/
def statistic? (form : Form) (key : String) : Option Statistic := do
  let period ← (form.value? (memberKey key "Period")).bind String.toInt?
  let stat ← form.value? (memberKey key "Stat")
  pure ⟨form.metric (memberKey key "Metric"), period, stat, form.value? (memberKey key "Unit")⟩

/-- The metric query at a key. -/
def query? (form : Form) (key : String) : Option Query := do
  let id ← form.value? (memberKey key "Id")
  pure
    { id := id
      expression := form.value? (memberKey key "Expression")
      label := form.value? (memberKey key "Label")
      statistic := form.statistic? (memberKey key "MetricStat")
      period := (form.value? (memberKey key "Period")).bind String.toInt?
      returnData := (form.value? (memberKey key "ReturnData")).bind readBoolean?
      accountId := form.value? (memberKey key "AccountId") }

/-- The metric queries of a form. -/
def queries (form : Form) : List Query := form.members "MetricDataQueries" form.query?

/-! ## What a reader relies on -/

/-- The keys of a form below a path lead to the given entries. -/
structure Shows (form : Form) (path : List String) (entries : Entries) : Prop where
  value : ∀ rest, IsPath (path ++ rest) → form.lookup (keyText (path ++ rest)) = entries.lookup rest
  /-- The form is long enough to number the entries. -/
  length : entries.length ≤ form.length

variable {form : Form} {path : List String} {entries : Entries}

/-- Going down by a name. -/
theorem Shows.within (shows : form.Shows path entries) (name : String) :
    form.Shows (path ++ [name]) (entries.within name) where
  value := by
    intro rest isPath
    rw [List.append_assoc, List.singleton_append] at isPath ⊢
    rw [shows.value (name :: rest) isPath, Entries.lookup_within]
  length := Nat.le_trans (Entries.length_within_le name entries) shows.length

/-- The key of a member of what is at a path. -/
theorem memberKey_keyText (begun : path ≠ []) (name : String) :
    memberKey (keyText path) name = keyText (path ++ [name]) :=
  (keyText_append begun (List.cons_ne_nil name [])).symm

/-- The value of a member is the one that the entries have there. -/
theorem Shows.value?_memberKey (shows : form.Shows path entries) (isPath : IsPath path)
    {name : String} (isName : IsName name) :
    form.value? (memberKey (keyText path) name) = (entries.within name).lookup [] := by
  rw [memberKey_keyText isPath.1, Entries.lookup_within]
  exact shows.value [name] (isPath_append isPath.2 isName)

/-- Reading numbers from the first gives back a list that has them all. -/
theorem filterMap_takeWhile_range {α : Type} {items : List α} {read? : Nat → Option α}
    (reads : ∀ index, read? index = items[index]?) {bound : Nat} (enough : items.length ≤ bound) :
    (((List.range bound).map read?).takeWhile Option.isSome).filterMap id = items := by
  induction items generalizing read? bound with
  | nil =>
      cases bound with
      | zero => rfl
      | succ bound => simp [List.range_succ_eq_map, reads]
  | cons item items inductionHypothesis =>
      obtain ⟨bound, rfl⟩ : ∃ more, bound = more + 1 :=
        ⟨bound - 1, (Nat.sub_add_cancel (Nat.le_trans (by simp) enough)).symm⟩
      have first : read? 0 = some item := reads 0
      have rest := @inductionHypothesis (fun index => read? (index + 1))
        (fun index => reads (index + 1)) bound (by simpa using enough)
      rw [List.range_succ_eq_map, List.map_cons, first, List.map_map]
      simpa [Function.comp_def] using rest

/-- A list is read back if its members are, and if nothing is read where there is nothing. -/
theorem Shows.members {α : Type} {items : List α} {write : α → Entries}
    {read? : String → Option α} (shows : form.Shows path (.list (items.map write)))
    (isPath : IsPath path) (filled : ∀ item, write item ≠ [])
    (reads : ∀ {path item}, IsPath path → form.Shows path (write item) →
      read? (keyText path) = some item)
    (absent : ∀ {path}, IsPath path → form.Shows path [] → read? (keyText path) = none) :
    form.members (keyText path) read? = items := by
  refine filterMap_takeWhile_range (fun index => ?_) ?_
  · have listPath := isPath_append isPath.2 (show IsName "member" by decide)
    have memberPath := isPath_append listPath.2 (isName_number (index + 1))
    have member := (shows.within "member").within (toString (index + 1))
    rw [Entries.within_list, List.getElem?_map] at member
    rw [memberKey_keyText isPath.1, memberKey_keyText listPath.1]
    cases here : items[index]? with
    | none =>
        rw [here] at member
        exact absent memberPath member
    | some item =>
        rw [here] at member
        exact reads memberPath member
  · have written : ∀ entries ∈ items.map write, entries ≠ [] := by
      intro entries inside
      obtain ⟨item, _, rfl⟩ := List.mem_map.1 inside
      exact filled item
    have enough := Entries.length_le_length_list written
    rw [List.length_map] at enough
    exact Nat.le_trans enough shows.length

/-- Where there is nothing, no member has a value. -/
theorem Shows.value?_of_nil (shows : form.Shows path []) (isPath : IsPath path) {name : String}
    (isName : IsName name) : form.value? (memberKey (keyText path) name) = none :=
  shows.value?_memberKey isPath isName

section Record

variable {members : List (String × Entries)} {name : String}

/-- Below the name of a member of a structure are the entries of the member. -/
theorem Shows.below (shows : form.Shows path (.record members))
    (areNames : AreNames (members.map Prod.fst)) {entries : Entries}
    (member : (name, entries) ∈ members) : form.Shows (path ++ [name]) entries := by
  have found : members.lookup name = some entries := (lookup_eq_some_iff_mem areNames.1).2 member
  have deeper := shows.within name
  rwa [Entries.within_record areNames, found] at deeper

/-- The path of a member of a structure. -/
theorem isPath_member (isPath : IsPath path) (areNames : AreNames (members.map Prod.fst))
    {entries : Entries} (member : (name, entries) ∈ members) : IsPath (path ++ [name]) :=
  isPath_append isPath.2 (areNames.2 name (List.mem_map_of_mem (f := Prod.fst) member))

/-- The value of a member that may be absent, as it is written. -/
theorem Shows.value?_member (shows : form.Shows path (.record members)) (isPath : IsPath path)
    (areNames : AreNames (members.map Prod.fst)) {α : Type} {write : α → String}
    {value : Option α}
    (member : (name, Entries.optional (fun given => .one (write given)) value) ∈ members) :
    form.value? (memberKey (keyText path) name) = value.map write := by
  have deeper := (shows.below areNames member).value [] (by
    simpa using isPath_member isPath areNames member)
  rw [memberKey_keyText isPath.1, Form.value?]
  rw [List.append_nil] at deeper
  rw [deeper]
  cases value <;> rfl

/-- The text of a member that may be absent. -/
theorem Shows.text?_member (shows : form.Shows path (.record members)) (isPath : IsPath path)
    (areNames : AreNames (members.map Prod.fst)) {value : Option String}
    (member : (name, Entries.optional .one value) ∈ members) :
    form.value? (memberKey (keyText path) name) = value := by
  have written : form.value? (memberKey (keyText path) name) = value.map id :=
    shows.value?_member isPath areNames member
  rwa [Option.map_id_apply] at written

end Record

/-! ## Reading back -/

/-- A dimension is read back. -/
theorem Shows.dimension? {dimension : Dimension} (shows : form.Shows path dimension.shape.entries)
    (isPath : IsPath path) : form.dimension? (keyText path) = some dimension := by
  have areNames := dimension.shape.areNames
  have name : form.value? (memberKey (keyText path) "Name") = some dimension.name :=
    shows.text?_member isPath areNames (by simp [DimensionShape.members, Dimension.shape])
  have value : form.value? (memberKey (keyText path) "Value") = some dimension.value :=
    shows.text?_member isPath areNames (by simp [DimensionShape.members, Dimension.shape])
  rw [Form.dimension?, name, value]
  rfl

/-- Where there is nothing, no dimension is read. -/
theorem Shows.dimension?_of_nil (shows : form.Shows path []) (isPath : IsPath path) :
    form.dimension? (keyText path) = none := by
  rw [Form.dimension?, shows.value?_of_nil isPath (by decide)]
  rfl

/-- A metric is read back. -/
theorem Shows.metric {metric : Metric} (shows : form.Shows path metric.shape.entries)
    (isPath : IsPath path) : form.metric (keyText path) = metric := by
  have areNames := metric.shape.areNames
  have namespaceName :
      form.value? (memberKey (keyText path) "Namespace") = metric.namespaceName :=
    shows.text?_member isPath areNames (by simp [MetricShape.members, Metric.shape])
  have metricName : form.value? (memberKey (keyText path) "MetricName") = metric.metricName :=
    shows.text?_member isPath areNames (by simp [MetricShape.members, Metric.shape])
  have member : ("Dimensions",
      Entries.list (metric.dimensions.map fun dimension => dimension.shape.entries)) ∈
        metric.shape.members := by
    simp [MetricShape.members, Metric.shape, Entries.optional, Function.comp_def]
  have dimensions := (shows.below areNames member).members
    (isPath_member isPath areNames member) (fun dimension => List.cons_ne_nil _ _)
    (fun isPath shows => shows.dimension? isPath)
    (fun isPath shows => shows.dimension?_of_nil isPath)
  rw [Form.metric, namespaceName, metricName, memberKey_keyText isPath.1, dimensions]

/-- A statistic is read back. -/
theorem Shows.statistic? {statistic : Statistic}
    (shows : form.Shows path statistic.shape.entries) (isPath : IsPath path) :
    form.statistic? (keyText path) = some statistic := by
  have areNames := statistic.shape.areNames
  have period : form.value? (memberKey (keyText path) "Period") =
      (some statistic.period).map toString :=
    shows.value?_member isPath areNames (by simp [StatisticShape.members, Statistic.shape])
  have stat : form.value? (memberKey (keyText path) "Stat") = some statistic.stat :=
    shows.text?_member isPath areNames (by simp [StatisticShape.members, Statistic.shape])
  have unit : form.value? (memberKey (keyText path) "Unit") =
      (statistic.unit.map StandardUnit.ofText).map StandardUnit.text :=
    shows.value?_member isPath areNames (by simp [StatisticShape.members, Statistic.shape])
  have member : ("Metric", statistic.metric.shape.entries) ∈ statistic.shape.members := by
    simp [StatisticShape.members, Statistic.shape, Entries.optional]
  have metric := Shows.metric (shows.below areNames member)
    (isPath_member isPath areNames member)
  rw [Form.statistic?, period, stat, unit, memberKey_keyText isPath.1, metric]
  simp [Function.comp_def]

/-- Where there is nothing, no statistic is read. -/
theorem Shows.statistic?_of_nil (shows : form.Shows path []) (isPath : IsPath path) :
    form.statistic? (keyText path) = none := by
  rw [Form.statistic?, shows.value?_of_nil isPath (by decide)]
  rfl

/-- A metric query is read back. -/
theorem Shows.query? {query : Query} (shows : form.Shows path query.shape.entries)
    (isPath : IsPath path) : form.query? (keyText path) = some query := by
  have areNames := query.shape.areNames
  have id : form.value? (memberKey (keyText path) "Id") = some query.id :=
    shows.text?_member isPath areNames (by simp [QueryShape.members, Query.shape])
  have expression : form.value? (memberKey (keyText path) "Expression") = query.expression :=
    shows.text?_member isPath areNames (by simp [QueryShape.members, Query.shape])
  have label : form.value? (memberKey (keyText path) "Label") = query.label :=
    shows.text?_member isPath areNames (by simp [QueryShape.members, Query.shape])
  have accountId : form.value? (memberKey (keyText path) "AccountId") = query.accountId :=
    shows.text?_member isPath areNames (by simp [QueryShape.members, Query.shape])
  have period : form.value? (memberKey (keyText path) "Period") = query.period.map toString :=
    shows.value?_member isPath areNames (by simp [QueryShape.members, Query.shape])
  have returnData : form.value? (memberKey (keyText path) "ReturnData") =
      query.returnData.map writeBoolean :=
    shows.value?_member isPath areNames (by simp [QueryShape.members, Query.shape])
  have member : ("MetricStat",
      Entries.optional (fun statistic => statistic.shape.entries) query.statistic) ∈
        query.shape.members := by
    cases given : query.statistic <;>
      simp [QueryShape.members, Query.shape, Entries.optional, given]
  have statistic : form.statistic? (keyText (path ++ ["MetricStat"])) = query.statistic := by
    have deeper := shows.below areNames member
    have deeperPath := isPath_member isPath areNames member
    cases given : query.statistic with
    | none =>
        rw [given] at deeper
        exact deeper.statistic?_of_nil deeperPath
    | some statistic =>
        rw [given] at deeper
        exact deeper.statistic? deeperPath
  rw [Form.query?, id, expression, label, accountId, period, returnData,
    memberKey_keyText isPath.1, statistic, bind_map_of_reads fun period => by simp,
    bind_map_of_reads readBoolean?_writeBoolean]
  rfl

/-- Where there is nothing, no metric query is read. -/
theorem Shows.query?_of_nil (shows : form.Shows path []) (isPath : IsPath path) :
    form.query? (keyText path) = none := by
  rw [Form.query?, shows.value?_of_nil isPath (by decide)]
  rfl

/-! ## Whole forms -/

/-- A form shows the entries that it was made of, in whatever order it arrives. -/
theorem shows_of_perm {call : Call} {received : Form} (same : received.Perm call.form) :
    received.Shows [] call.shape.entries where
  value := by
    intro rest isPath
    rw [List.nil_append] at isPath ⊢
    rw [lookup_eq_of_perm same (nodup_keys_form call)]
    exact lookup_map_fst fun entry inside =>
      (keyText_inj isPath (call.shape.isPath inside)).1
  length := Nat.le_of_eq <| by
    rw [same.length_eq, Call.form, Entries.form, List.length_map]

end Form

end MetricProbe.CloudWatch

import MetricProbe.Toml.Value

/-!
# Assembly of tables

The tables of a document are built up while its lines are read, and some may still be extended:
which ones, and by what, depends on how they came to be. A header opens a table that no header has
opened before; a dotted name reaches only into tables that dotted names have made. Everything else
that names a thing twice is refused.

A table that a header opens after it was implied by longer headers moves behind the other entries.
-/

namespace MetricProbe.Toml

/-- How a table came to be. -/
inductive Origin where
  /-- A header opened it, or it is the whole document, or an element of an array of tables. -/
  | opened
  /-- It is only named on the way of a header. -/
  | implied
  /-- It was made by a dotted name. -/
  | dotted
  deriving DecidableEq, Repr

/-- A part of a document that is being assembled. -/
inductive Node where
  /-- A value that is complete. -/
  | leaf (value : Value)
  | table (origin : Origin) (entries : List (String × Node))
  /-- An array of tables, which headers extend. -/
  | tables (items : List (List (String × Node)))

/-- The names of a table that is being assembled, with their parts. -/
abbrev Branch := List (String × Node)

namespace Branch

/-- The branch with another part under a name that it has. -/
def replace (branch : Branch) (name : String) (node : Node) : Branch :=
  branch.map fun entry => if entry.1 = name then (name, node) else entry

/-- The branch without a name. -/
def erase (branch : Branch) (name : String) : Branch :=
  branch.filter (·.1 ≠ name)

/-- Who follows a path: a header, or a dotted name. -/
inductive Walker where
  | header
  | dottedName
  deriving DecidableEq, Repr

/-- The origin of the tables that a walker makes on its way. -/
def Walker.makes : Walker → Origin
  | .header => .implied
  | .dottedName => .dotted

/-- Whether a walker may pass through a table. -/
def Walker.mayEnter : Walker → Origin → Bool
  | .header, _ => true
  | .dottedName, origin => origin != .opened

/-- Changes the table at the end of a path and makes the tables on the way that do not exist. An
array of tables is entered at its last element. -/
def changeAt? (walker : Walker) (change : Origin → Branch → Option Branch) :
    List String → Origin → Branch → Option Branch
  | [], origin, branch => change origin branch
  | name :: path, _, branch =>
    match branch.lookup name with
    | none =>
      (changeAt? walker change path walker.makes []).map fun inside =>
        branch ++ [(name, .table walker.makes inside)]
    | some (.leaf _) => none
    | some (.tables items) =>
      match items.getLast? with
      | none => none
      | some last =>
        (changeAt? walker change path .opened last).map fun inside =>
          branch.replace name (.tables (items.dropLast ++ [inside]))
    | some (.table origin inside) =>
      if walker.mayEnter origin then
        (changeAt? walker change path origin inside).map fun inside =>
          branch.replace name (.table origin inside)
      else none

/-- Writes a value under a dotted name, given as a path and the last name. The table at the end of
the path must have been made by dotted names, unless there is no path. -/
def write? (path : List String) (name : String) (value : Value) (origin : Origin)
    (branch : Branch) : Option Branch :=
  changeAt? .dottedName (fun reached inside =>
    if (reached == .dotted) == path.isEmpty then none
    else if (inside.lookup name).isSome then none
    else some (inside ++ [(name, .leaf value)])) path origin branch

/-- Opens the table of a header, given as a path and the last name. -/
def openTable? (path : List String) (name : String) (branch : Branch) : Option Branch :=
  changeAt? .header (fun _ inside =>
    match inside.lookup name with
    | none => some (inside ++ [(name, .table .opened [])])
    | some (.table .implied own) => some (erase inside name ++ [(name, .table .opened own)])
    | some _ => none) path .opened branch

/-- Opens one more table of an array of tables, given as a path and the last name. -/
def openElement? (path : List String) (name : String) (branch : Branch) : Option Branch :=
  changeAt? .header (fun _ inside =>
    match inside.lookup name with
    | none => some (inside ++ [(name, .tables [[]])])
    | some (.tables items) => some (replace inside name (.tables (items ++ [[]])))
    | some _ => none) path .opened branch

/-- Writes a value under a dotted name in the table that a header opened last. -/
def writeUnder? (header path : List String) (name : String) (value : Value) (branch : Branch) :
    Option Branch :=
  changeAt? .header (fun origin inside => write? path name value origin inside) header .opened
    branch

end Branch

mutual

/-- The value that a part has become. -/
def Node.value : Node → Value
  | .leaf value => value
  | .table _ entries => .table (Branch.values entries)
  | .tables items => .array (Branch.elements items)

/-- The table that a branch has become. -/
def Branch.values : List (String × Node) → Table
  | [] => []
  | (name, node) :: rest => (name, node.value) :: Branch.values rest

/-- The elements that an array of tables has become. -/
def Branch.elements : List (List (String × Node)) → List Value
  | [] => []
  | entries :: rest => .table (Branch.values entries) :: Branch.elements rest

end

end MetricProbe.Toml

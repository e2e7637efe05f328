import MetricProbe.Decimal.Binary64
import MetricProbe.Toml.Moment

/-!
# Values of a configuration text

What a TOML document holds: tables of values by name, in the order in which they were written, and
no name twice in one table.
-/

namespace MetricProbe.Toml

/-- A value of a document. -/
inductive Value where
  | text (value : String)
  | integer (value : Int)
  | float (value : Binary64)
  | boolean (value : Bool)
  | moment (value : Moment)
  | array (items : List Value)
  | table (entries : List (String × Value))
  deriving Repr

/-- The names of a table with their values. -/
abbrev Table := List (String × Value)

end MetricProbe.Toml

import MetricProbe.Text.Utf8

/-!
# Environments

The variables that the program is started with. A value that is not UTF-8 counts as not set.
-/

namespace MetricProbe

/-- Variables with the bytes of their values. The first entry of a name counts. -/
abbrev Environment := List (String × Bytes)

/-- The text of a variable. -/
def Environment.text? (environment : Environment) (name : String) : Option String :=
  (environment.lookup name).bind Utf8.decode?

end MetricProbe

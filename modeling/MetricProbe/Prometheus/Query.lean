import MetricProbe.Text.Blank
import MetricProbe.Text.Split

/-!
# Query texts

A query may be laid out over several indented lines. It is sent as one line: the lines are trimmed,
those with nothing on them are left out, and the others are joined by single spaces. Blanks within a
line stay as they are.
-/

namespace MetricProbe.Prometheus

/-- Lines joined by single spaces. -/
def joinLines : List (List Char) → List Char
  | [] => []
  | [line] => line
  | line :: next :: more => line ++ ' ' :: joinLines (next :: more)

/-- The lines of a query that have anything on them, trimmed. -/
def queryLines (query : List Char) : List (List Char) :=
  ((Text.splitAll (· == '\n') query).map Text.trim).filter (!·.isEmpty)

/-- A query on one line. -/
def normalize (query : String) : String :=
  String.ofList (joinLines (queryLines query.toList))

end MetricProbe.Prometheus

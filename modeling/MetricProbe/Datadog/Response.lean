import MetricProbe.Failure
import MetricProbe.Json.Document

/-!
# Answers of Datadog

A query is answered with a list of series, each with a list of points, and a point is a timestamp
and a value. Only the last point of the first series counts. Null stands for an empty list, and a
value may be null: the backend is fine then and has no datapoint.
-/

namespace MetricProbe.Datadog

open Json (Record)

/-- A point: a timestamp in milliseconds and a value. Either may be null, and there may be fewer
numbers or more. -/
abbrev Point := List (Option Binary64)

/-- A series of points in the order of time. -/
structure Series where
  points : List Point
  deriving DecidableEq, Repr

/-- An answer to a query. -/
structure Response where
  series : List Series
  deriving DecidableEq, Repr

/-- What has been read of a series. -/
structure SeriesDraft where
  points : Option (List Point)

/-- A series as it is written. -/
def seriesRecord : Record SeriesDraft Series where
  name := "DatadogSeries"
  fields :=
    [{ name := "pointlist"
       otherName := none
       required := false
       filled := fun draft => draft.points.isSome
       fill := fun depth draft => do
        let points ← Json.arrayOrNull (Json.array fun _ => Json.optional Json.float) depth
        pure { draft with points := some points } }]
  empty := ⟨none⟩
  finish := fun draft => .ok ⟨draft.points.getD []⟩

/-- What has been read of an answer. -/
structure ResponseDraft where
  series : Option (List Series)

/-- An answer as it is written. -/
def responseRecord : Record ResponseDraft Response where
  name := "DatadogResponse"
  fields :=
    [{ name := "series"
       otherName := none
       required := false
       filled := fun draft => draft.series.isSome
       fill := fun depth draft => do
        let series ← Json.arrayOrNull seriesRecord.read depth
        pure { draft with series := some series } }]
  empty := ⟨none⟩
  finish := fun draft => .ok ⟨draft.series.getD []⟩

/-- The value of the last point of the first series. -/
def Response.latest? (response : Response) : Option Binary64 := do
  let series ← response.series.head?
  let point ← series.points.getLast?
  let value ← point[1]?
  value

/-- The value that the body of an answer reports. -/
def readResponse (body : String) : Outcome Binary64 :=
  match Json.decode responseRecord.read body with
  | .error fault => .error (.decode fault.message body)
  | .ok response =>
    match response.latest? with
    | none => .error (.noValues body)
    | some value => .ok value

end MetricProbe.Datadog

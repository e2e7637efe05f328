import MetricProbe.Log.Event
import MetricProbe.Text.Hex

/-!
# Lines of the log

An event is logged as a line of its own, which is a JSON object: the time, the level, the fields
and the source.
-/

namespace MetricProbe.Log

/-- One character within the quotes of a JSON text. -/
def jsonChar (c : Char) : List Char :=
  if c = '"' then ['\\', '"']
  else if c = '\\' then ['\\', '\\']
  else if c = '\n' then ['\\', 'n']
  else if c = '\r' then ['\\', 'r']
  else if c = '\t' then ['\\', 't']
  else if c.toNat < 0x20 then
    let digits := Text.hexDigits c.toNat
    '\\' :: 'u' :: (List.replicate (4 - digits.length) '0' ++ digits)
  else [c]

/-- A text as a JSON text. -/
def jsonText (text : String) : String :=
  String.ofList ('"' :: (text.toList.flatMap jsonChar ++ ['"']))

/-- A value as a JSON text. -/
def FieldValue.json : FieldValue → String
  | text value => jsonText value
  | number value => toString value
  | flag value => if value then "true" else "false"

/-- Members as a JSON object. -/
def jsonObject (members : List (String × String)) : String :=
  "\x7b" ++ String.intercalate "," (members.map fun member =>
    jsonText member.1 ++ ":" ++ member.2) ++ "\x7d"

/-- The line of an event of a source at a time, which is given as a text. -/
def Event.line (source timestamp : String) (event : Event) : String :=
  jsonObject
    [("timestamp", jsonText timestamp), ("level", jsonText event.level.name),
      ("fields", jsonObject (event.allFields.map fun field => (field.1, field.2.json))),
      ("target", jsonText source)]

end MetricProbe.Log

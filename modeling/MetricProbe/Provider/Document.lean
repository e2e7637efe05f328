import MetricProbe.Json.Document
import MetricProbe.Provider.Settings

/-!
# Provider settings as a JSON text

Settings are an object with the members `type` and `address`, or an array of the two. Either may be
left out, and is empty then.
-/

namespace MetricProbe.Settings

open Json (Record)

/-- What has been read of settings. -/
structure Draft where
  declared : Option String
  address : Option String

/-- Settings as they are written. -/
def record : Record Draft Settings where
  name := "ProviderConfig"
  fields :=
    [{ name := "type"
       otherName := none
       required := false
       filled := fun draft => draft.declared.isSome
       fill := fun _ draft => do
        let value ← Json.text
        pure { draft with declared := some value } },
      { name := "address"
        otherName := none
        required := false
        filled := fun draft => draft.address.isSome
        fill := fun _ draft => do
        let value ← Json.text
        pure { draft with address := some value } }]
  empty := ⟨none, none⟩
  finish := fun draft => .ok ⟨draft.declared.getD "", draft.address.getD ""⟩

/-- The settings that a JSON text stands for. -/
def ofJson (text : String) : Except Json.Fault Settings :=
  Json.decode record.read text

end MetricProbe.Settings

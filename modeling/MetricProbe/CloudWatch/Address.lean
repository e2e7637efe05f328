import MetricProbe.Failure
import MetricProbe.Text.Blank
import MetricProbe.Text.Split

/-!
# Addresses of CloudWatch

An address names the monitoring host of a region, `monitoring.<region>.amazonaws.com` or the same
under `.cn`, with or without a scheme before it and slashes after it. The region is taken from the
address, and the endpoint is the address as a full URL.

The region is any text without a point; that it names an existing region is not checked.
-/

namespace MetricProbe.CloudWatch

/-- What stands before the region. -/
def hostStart : List Char := "monitoring.".toList

/-- What may stand after the region. -/
def hostEnds : List (List Char) := [".amazonaws.com".toList, ".amazonaws.com.cn".toList]

/-- The mark between a scheme and a host. -/
def schemeMark : List Char := "://".toList

/-- What follows the first mark of a scheme, if there is one. -/
def afterScheme? : List Char → Option (List Char)
  | [] => none
  | c :: rest =>
    match Text.stripStart? schemeMark (c :: rest) with
    | some after => some after
    | none => afterScheme? rest

/-- An address without its scheme. -/
def withoutScheme (address : List Char) : List Char := (afterScheme? address).getD address

/-- An address without the slashes at its end. -/
def withoutSlashes (address : List Char) : List Char :=
  Text.dropEndWhile (· == '/') address

/-- The region that an address names. -/
def region? (address : String) : Option String := do
  let rest ← Text.stripStart? hostStart (withoutSlashes (withoutScheme address.toList))
  let region ← hostEnds.findSome? (Text.stripEnd? · rest)
  if region.isEmpty || region.contains '.' then none else pure (String.ofList region)

/-- The region that an address names, or the failure that it names none. -/
def readRegion (address : String) : Outcome String :=
  match region? address with
  | some region => .ok region
  | none => .error (.invalidAddress address "expected monitoring.<region>.amazonaws.com")

/-- The address as a full URL, with a secure scheme if it has none. -/
def endpointUrl (address : String) : String :=
  let bare := withoutSlashes address.toList
  if (afterScheme? bare).isSome then String.ofList bare
  else String.ofList ("https://".toList ++ bare)

end MetricProbe.CloudWatch

/-!
# Cutting texts

Cutting a list of characters at separators: at every one, at the first and at the last.
-/

namespace MetricProbe.Text

/-- The pieces between the separators. There is always one more piece than separators. -/
def splitAll (isSeparator : Char → Bool) : List Char → List (List Char)
  | [] => [[]]
  | c :: rest =>
    if isSeparator c then [] :: splitAll isSeparator rest
    else
      match splitAll isSeparator rest with
      | [] => [[c]]
      | piece :: pieces => (c :: piece) :: pieces

/-- The parts before and after the first separator, if there is one. -/
def splitFirst? (isSeparator : Char → Bool) : List Char → Option (List Char × List Char)
  | [] => none
  | c :: rest =>
    if isSeparator c then some ([], rest)
    else (splitFirst? isSeparator rest).map fun (before, after) => (c :: before, after)

/-- The parts before and after the last separator, if there is one. -/
def splitLast? (isSeparator : Char → Bool) : List Char → Option (List Char × List Char)
  | [] => none
  | c :: rest =>
    match splitLast? isSeparator rest with
    | some (before, after) => some (c :: before, after)
    | none => if isSeparator c then some ([], rest) else none

/-- What follows the given beginning of a text, if the text begins so. -/
def stripStart? : List Char → List Char → Option (List Char)
  | [], text => some text
  | _ :: _, [] => none
  | c :: beginning, d :: text => if c = d then stripStart? beginning text else none

/-- What stands before the given end of a text, if the text ends so. -/
def stripEnd? (ending text : List Char) : Option (List Char) :=
  (stripStart? ending.reverse text.reverse).map List.reverse

/-- Whether a text begins with another. -/
def startsWith (beginning text : List Char) : Bool :=
  (stripStart? beginning text).isSome

end MetricProbe.Text

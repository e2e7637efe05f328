import MetricProbe.Log.Event
import MetricProbe.Text.Blank
import MetricProbe.Text.Split

/-!
# Log filters

A filter is a list of directives between commas. A directive gives the most verbose level that is
logged, for everything or for the sources whose names begin with a target; a target without a level
stands for all of its events. In brackets a directive may name a span and a field in braces: an
event that is in no span is logged by such a directive only if the span has no name and the field
no value, and if the event has the field.

Of the directives that apply to an event the most specific one decides, and of equally specific
ones the last. A filter without directives logs errors.
-/

namespace MetricProbe.Log

/-- A directive of a filter. -/
structure Directive where
  target : Option String
  /-- Whether a span is named, or a value of a field. -/
  bound : Bool
  /-- The field that an event must have. -/
  field : Option String
  /-- The rank of the most verbose level that is logged; nothing is logged at zero. -/
  verbosity : Nat
  deriving DecidableEq, Repr

/-- Why a text is no directive. -/
inductive DirectiveFault where
  | malformed
  | unknownLevel
  deriving DecidableEq, Repr

/-- The wording of a fault. -/
def DirectiveFault.message : DirectiveFault → String
  | malformed => "invalid filter directive"
  | unknownLevel =>
    "error parsing level filter: expected one of \"off\", \"error\", \"warn\", \"info\", " ++
      "\"debug\", \"trace\", or a number 0-5"

/-- The rank of the most verbose level. -/
def allLevels : Nat := Level.trace.rank

/-- The rank that a word gives: a name in any case, or a number. -/
def rankOf? (word : List Char) : Option Nat :=
  let digits := (Text.stripStart? ['+'] word).getD word
  if !digits.isEmpty && digits.all Char.isDigit then
    let rank := Nat.ofDigitChars 10 digits 0
    if rank ≤ allLevels then some rank else none
  else
    let name := String.ofList (word.map Char.toUpper)
    if name = "OFF" then some 0
    else ([.error, .warn, .info, .debug, .trace].find? (·.name == name)).map Level.rank

/-- The rank behind an equals sign, or all levels where there is none. -/
def rankAfter : List Char → Except DirectiveFault Nat
  | [] => .ok allLevels
  | c :: word =>
    if c ≠ '=' then .error .malformed
    else if word.isEmpty then .ok allLevels
    else (rankOf? word).elim (.error .unknownLevel) .ok

/-- A character that can begin a directive without brackets. Characters beyond ASCII can. -/
def beginsTarget (c : Char) : Bool :=
  c.isAlphanum || c == '-' || c == ':' || c == '_' || 0x80 ≤ c.toNat

/-- A character that ends a target. -/
def endsTarget (c : Char) : Bool := c == '=' || c == '['

/-- Reads the inside of brackets and what follows them. -/
def readBrackets (target : Option String) (text : List Char) : Except DirectiveFault Directive := do
  let span := text.takeWhile fun c => c != ']' && c != '\x7b'
  match text.dropWhile fun c => c != ']' && c != '\x7b' with
  | ']' :: rest =>
    let verbosity ← rankAfter rest
    pure ⟨target, true, none, verbosity⟩
  | '\x7b' :: rest =>
    let field := rest.takeWhile (· != '\x7d')
    match rest.dropWhile (· != '\x7d') with
    | '\x7d' :: ']' :: rest =>
      if field.isEmpty then .error .malformed
      else do
        let verbosity ← rankAfter rest
        let name := field.takeWhile (· != '=')
        pure ⟨target, !span.isEmpty || name.length < field.length, some (String.ofList name),
          verbosity⟩
    | _ => .error .malformed
  | _ => .error .malformed

/-- The directive that a text stands for. -/
def Directive.read (text : List Char) : Except DirectiveFault Directive := do
  let text := Text.trim text
  let head := text.takeWhile fun c => !endsTarget c
  let target := if head.isEmpty then none else some (String.ofList head)
  if !head.isEmpty && !(head.take 1).all beginsTarget then .error .malformed
  else
    match text.dropWhile fun c => !endsTarget c with
    | '[' :: rest => readBrackets target rest
    | [] =>
      match rankOf? head with
      | some rank => pure ⟨none, false, none, rank⟩
      | none => if head.isEmpty then .error .malformed else pure ⟨target, false, none, allLevels⟩
    | rest =>
      if head.isEmpty then .error .malformed
      else do
        let verbosity ← rankAfter rest
        pure ⟨target, false, none, verbosity⟩

/-- Whether a directive applies to an event of a source that is in no span. -/
def Directive.appliesTo (directive : Directive) (source : String) (event : Event) : Bool :=
  !directive.bound &&
    (directive.target.all fun target => Text.startsWith target.toList source.toList) &&
    (directive.field.all fun field => (event.allFields.lookup field).isSome)

/-- How specific a directive is: first the length of its target, then whether it names a field. -/
def Directive.specificity (directive : Directive) : Nat × Nat :=
  (directive.target.elim 0 fun target => target.utf8ByteSize + 1,
    if directive.field.isSome then 1 else 0)

/-- Whether a directive is less specific than another one, or as specific. -/
def Directive.atMost (left right : Directive) : Bool :=
  let (target, field) := left.specificity
  let (otherTarget, otherField) := right.specificity
  if target = otherTarget then
    if field = otherField then left.field.getD "" ≤ right.field.getD ""
    else field < otherField
  else target < otherTarget

/-- A filter. -/
structure Filter where
  directives : List Directive
  deriving DecidableEq, Repr

namespace Filter

/-- The rank up to which a filter logs an event. -/
def verbosityFor (filter : Filter) (source : String) (event : Event) : Nat :=
  if filter.directives.isEmpty then Level.error.rank
  else
    let deciding := (filter.directives.filter (·.appliesTo source event)).foldl
      (fun best directive =>
        match best with
        | none => some directive
        | some chosen => some (if chosen.atMost directive then directive else chosen))
      none
    deciding.elim 0 (·.verbosity)

/-- Whether a filter logs an event. -/
def logs (filter : Filter) (source : String) (event : Event) : Bool :=
  event.level.rank ≤ filter.verbosityFor source event

/-- The directives of a text, still to be read. -/
def pieces (text : String) : List (List Char) :=
  (Text.splitAll (· == ',') text.toList).filter (!·.isEmpty)

/-- The filter that a text stands for, if all of its directives can be read. -/
def read? (text : String) : Option Filter :=
  match (pieces text).mapM Directive.read with
  | .ok directives => some ⟨directives⟩
  | .error _ => none

/-- The filter of the directives of a text that can be read. -/
def readKnown (text : String) : Filter :=
  ⟨(pieces text).filterMap fun piece => (Directive.read piece).toOption⟩

/-- One line for each directive of a text that cannot be read. -/
def ignored (text : String) : List String :=
  (pieces text).filterMap fun piece =>
    match Directive.read piece with
    | .ok _ => none
    | .error fault => some ("ignoring `" ++ String.ofList piece ++ "`: " ++ fault.message)

end Filter

end MetricProbe.Log

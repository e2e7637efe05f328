import MetricProbe.Config.Document
import MetricProbe.Config.Validity

/-!
# Loading configurations

A configuration is loaded from the text of a file: it is read and then looked at. A failure is
reported as a chain of messages, of which each one says why the one before it arose.
-/

namespace MetricProbe.Config

/-- What a file turned out to be. -/
inductive FileContent where
  /-- The file has these bytes. -/
  | bytes (data : Bytes)
  /-- There is no such file. -/
  | missing
  /-- The path is that of a directory. -/
  | directory
  /-- The file cannot be read for another reason. -/
  | broken (reason : String)
  deriving DecidableEq, Repr

/-- The text of a file, or why there is none. -/
def FileContent.text : FileContent → Except String String
  | bytes data =>
    match Utf8.decode? data with
    | some text => .ok text
    | none => .error "stream did not contain valid UTF-8"
  | missing => .error "No such file or directory (os error 2)"
  | directory => .error "Is a directory (os error 21)"
  | broken reason => .error reason

/-- Why a configuration cannot be loaded. -/
inductive LoadFault where
  /-- The file has no text. -/
  | file (path reason : String)
  /-- The text is no configuration. -/
  | unreadable (cause : Unreadable)
  /-- The configuration cannot be used. -/
  | invalid (fault : Fault)
  deriving DecidableEq, Repr

/-- The wording for a text that is no configuration. -/
def unreadableMessage : String := "Failed to parse configuration"

/-- The wording of a fault and of what is behind it, outermost first. -/
def LoadFault.chain : LoadFault → List String
  | file path reason => [s!"Failed to read config file: {path}", reason]
  | unreadable .notDocument => [unreadableMessage, "TOML parse error"]
  | unreadable (.misfit misfit) => [unreadableMessage, misfit.message]
  | invalid fault => fault.message :: fault.causes

/-- The configuration of a text. -/
def ofText (text : String) : Except LoadFault Config :=
  match read text with
  | .error cause => .error (.unreadable cause)
  | .ok config =>
    match config.validate with
    | .error fault => .error (.invalid fault)
    | .ok () => .ok config

/-- The configuration of a file. -/
def load (path : String) (content : FileContent) : Except LoadFault Config :=
  match content.text with
  | .error reason => .error (.file path reason)
  | .ok text => ofText text

end MetricProbe.Config

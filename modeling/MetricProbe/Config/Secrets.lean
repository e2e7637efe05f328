import MetricProbe.Config.Basic

/-!
# Secrets of providers

The secrets of a provider are looked up in the environment, in the order of the credentials' keys.
All of them must be there; the first one that is not is named.
-/

namespace MetricProbe

/-- A variable that is not set, and the credential that needs it. -/
structure MissingVariable where
  name : String
  key : String
  provider : String
  deriving DecidableEq, Repr

/-- The wording of a missing variable. -/
def MissingVariable.message (missing : MissingVariable) : String :=
  s!"{missing.name} not set (credential '{missing.key}' of provider '{missing.provider}')"

/-- The secrets of keys, looked up by the variables. -/
def resolveAll (provider : String) (lookup : String → Option String) :
    List (String × String) → Except MissingVariable Credentials
  | [] => .ok []
  | (key, envName) :: rest =>
    match lookup envName with
    | none => .error ⟨envName, key, provider⟩
    | some secret => (resolveAll provider lookup rest).map ((key, Utf8.encode secret) :: ·)

/-- The secrets of a provider. -/
def ProviderEntry.resolve (entry : ProviderEntry) (lookup : String → Option String) :
    Except MissingVariable Credentials :=
  resolveAll entry.name lookup entry.secrets.entries

end MetricProbe

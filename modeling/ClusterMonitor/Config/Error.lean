import ClusterMonitor.Report.Code

/-!
# Configuration errors

Why a configuration, or one part of it, cannot be used. `ConfigError.code` and `ConfigError.message`
are what a report shows of an error.
-/

namespace ClusterMonitor

/-- Why a configuration, or a part of it, is refused. -/
inductive ConfigError where
  | missingRequiredOption (option : String)
  | typeMismatch (option expected actual : String)
  | malformedWhitelist (service : String) (component : Option String) (reason : String)
  | invalidValue (option reason : String)
  | invalidSchema (reason : String)
  | sourceNotFound (source : String)
  | parseFailed (reason : String)
  | watcherFailed (reason : String)
  | internal (reason : String)
deriving DecidableEq, Repr

namespace ConfigError

/-- The code that an error is reported under. -/
def code : ConfigError → String
  | .missingRequiredOption _ => Code.missingRequiredOption
  | .typeMismatch _ _ _ => Code.typeMismatch
  | .malformedWhitelist _ _ _ => Code.malformedWhitelist
  | .invalidValue _ _ => Code.invalidValue
  | .invalidSchema _ => Code.invalidSchema
  | .sourceNotFound _ => Code.sourceNotFound
  | .parseFailed _ => Code.parseFailed
  | .watcherFailed _ => Code.watcherFailed
  | .internal _ => Code.internal

/-- A place in a whitelist: a service, or a component of it. -/
def whitelistPath (service : String) : Option String → String
  | some component => s!"{service}.{component}"
  | none => service

/-- The wording of an error. -/
def message : ConfigError → String
  | .missingRequiredOption option => s!"Missing required option `{option}`"
  | .typeMismatch option expected actual => s!"Option `{option}` expects {expected}, got {actual}"
  | .malformedWhitelist service component reason =>
    s!"Malformed services whitelist at {whitelistPath service component}: {reason}"
  | .invalidValue option reason => s!"Invalid value for option `{option}`: {reason}"
  | .invalidSchema reason => s!"Invalid configuration schema: {reason}"
  | .sourceNotFound source => s!"Configuration source not found: {source}"
  | .parseFailed reason => s!"Configuration parsing failed: {reason}"
  | .watcherFailed reason => s!"Configuration watcher error: {reason}"
  | .internal reason => s!"Internal error: {reason}"

end ConfigError

end ClusterMonitor

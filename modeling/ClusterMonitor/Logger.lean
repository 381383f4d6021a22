/-!
# Logger settings

How the program writes its own log lines: the least level, the format and where the lines go.
-/

namespace ClusterMonitor

/-- The format of log lines. -/
inductive LogFormat where
  /-- Lines for people. -/
  | pretty
  /-- One JSON record a line. -/
  | json
deriving DecidableEq, Repr

namespace LogFormat

def text : LogFormat → String
  | .pretty => "pretty"
  | .json => "json"

/-- The format of this name, in capitals or not. All names are ASCII. -/
def ofName? (name : String) : Option LogFormat :=
  match String.ofList (name.toList.map Char.toLower) with
  | "pretty" => some .pretty
  | "text" => some .pretty
  | "json" => some .json
  | "bunyan" => some .json
  | _ => none

/-- What is said of a name that no format has. -/
def unknownName (name : String) : String :=
  s!"Unknown log format: {name}. Valid options: pretty, json"

end LogFormat

/-- The settings of the logger. -/
structure LoggerSettings where
  appName : String := "ambari-check"
  level : String := "info"
  format : LogFormat := .pretty
  directory : Option String := none
  filePrefix : String := "ambari-check.log"
deriving DecidableEq, Repr

/-- Why the logger cannot be set up. -/
inductive LoggerError where
  | invalidFilter (filter reason : String)
  | alreadyInitialized (reason : String)
deriving DecidableEq, Repr

def LoggerError.message : LoggerError → String
  | .invalidFilter filter reason => s!"Invalid log filter `{filter}`: {reason}"
  | .alreadyInitialized reason => s!"Logger already initialized: {reason}"

end ClusterMonitor

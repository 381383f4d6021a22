import ClusterMonitor.Report.Code

/-!
# Errors of the log pipeline
-/

namespace ClusterMonitor

/-- Why a log source, a pattern or a log file cannot be used. -/
inductive LogError where
  | invalidPattern (pattern reason : String)
  | invalidSource (reason : String)
  | readFailed (reason : String)
deriving DecidableEq, Repr

namespace LogError

def code : LogError → String
  | .invalidPattern _ _ => Code.invalidPattern
  | .invalidSource _ => Code.invalidLogSource
  | .readFailed _ => Code.readFailed

def message : LogError → String
  | .invalidPattern pattern reason => s!"Invalid pattern `{pattern}`: {reason}"
  | .invalidSource reason => s!"Invalid log source: {reason}"
  | .readFailed reason => s!"Log read failed: {reason}"

end LogError

end ClusterMonitor

import ClusterMonitor.Config.Error
import ClusterMonitor.Log.Error
import ClusterMonitor.Logger

/-!
# Failures of the program

The errors of the parts of the library, brought together for tools that use several of them.
-/

namespace ClusterMonitor

/-- Why a command of the program failed. -/
inductive Failure where
  | config (code message : String)
  | logs (code message : String)
  | io (reason : String)
  | logging (reason : String)
  | other (reason : String)
deriving DecidableEq, Repr

namespace Failure

def ofConfig (e : ConfigError) : Failure := .config e.code e.message

def ofLog (e : LogError) : Failure := .logs e.code e.message

def ofLogger (e : LoggerError) : Failure := .logging e.message

def code : Failure → String
  | .config code _ => code
  | .logs code _ => code
  | .io _ => Code.readFailed
  | .logging _ => Code.internal
  | .other _ => Code.internal

def message : Failure → String
  | .config code message => s!"Configuration error [{code}]: {message}"
  | .logs code message => s!"Log pipeline error [{code}]: {message}"
  | .io reason => s!"I/O error: {reason}"
  | .logging reason => s!"Logging error: {reason}"
  | .other reason => reason

end Failure

end ClusterMonitor

import ClusterMonitor.Glob
import ClusterMonitor.Log.Processor

/-!
# Routing log files

A file belongs to the first file source whose path pattern matches it; a file that no source matches
is passed through line by line.
-/

namespace ClusterMonitor

/-- The file sources with their path patterns, in document order. -/
structure Router where
  routes : List (Glob × LogSource)

namespace Router

/-- The route to a file source. -/
def routeOf (s : LogSource) : Except LogError (Glob × LogSource) := do
  s.validate
  let path := s.path.getD ""
  match Glob.ofText path with
  | .ok glob => return (glob, s)
  | .error e => .error (.invalidPattern path e.message)

/-- The routes to the file sources among some sources; the first fault ends the attempt. -/
def ofSources (sources : List LogSource) : Except LogError Router :=
  ((sources.filter fun s => s.kind == .file).mapM routeOf).map Router.mk

/-- The first source that a path belongs to. -/
def route? (r : Router) (path : String) : Option LogSource :=
  (r.routes.find? fun (glob, _) => glob.matches path).map Prod.snd

/-- The processor for a path. -/
def processorFor (r : Router) (path : String) : Except LogError Processor :=
  match r.route? path with
  | some s => Processor.ofSource s
  | none => .ok .passthrough

end Router

end ClusterMonitor

import ClusterMonitor.Config.Document
import ClusterMonitor.Config.Source
import ClusterMonitor.Schema.Builtin

/-!
# Engine

Puts a document together from its sources, later ones over earlier ones, and validates it.

* `Engine.document` — the merged document, not yet validated.
* `Engine.build` — the configuration in some surroundings.
-/

namespace ClusterMonitor

/-- The sources of a configuration and how they are read. -/
structure Engine where
  sources : List Source := []
  schema : Schema := .builtin
  /-- A document without log sources gets those of the schema. -/
  defaultLogs : Bool := false

namespace Engine

/-- A file whose options the environment overrides. -/
def ofFile (path : String) : Engine :=
  { sources := [.file path, .environment Environment.defaultOpening] }

/-- Lays the layers of sources, one after another, over what is there. -/
def overlaySources (s : Surroundings) (below : Value) : List Source → Except ConfigError Value
  | [] => .ok below
  | source :: rest =>
    match source.read s with
    | .error e => .error e
    | .ok layer => overlaySources s (below.overlay layer) rest

/-- What is missing when there is no source at all. -/
def noSources : String := "no configuration sources"

/-- The merged document. -/
def document (e : Engine) (s : Surroundings) : Except ConfigError Value :=
  if e.sources.isEmpty then .error (.sourceNotFound noSources)
  else overlaySources s (.object []) e.sources

/-- The configuration with the log sources of the schema, if it has none and is to have some. -/
def withDefaultLogs (e : Engine) (c : Configuration) : Configuration :=
  if e.defaultLogs && c.logs.isEmpty then { c with logs := e.schema.logs } else c

/-- The configuration. -/
def build (e : Engine) (s : Surroundings) : Except ConfigError Configuration :=
  match e.document s with
  | .error fault => .error fault
  | .ok document => (Configuration.read e.schema document).map e.withDefaultLogs

end Engine

end ClusterMonitor

import ClusterMonitor.Schema.Check
import ClusterMonitor.Yaml.Reader

/-!
# Schema texts

Reads a schema from a YAML text, and holds it to its own rules.
-/

namespace ClusterMonitor.Schema

/-- What is said of a text that is no schema at all. -/
def malformedReason : String := "not a schema document"

/-- Reads a schema from a text. -/
def ofText (text : String) : Except ConfigError Schema :=
  match Yaml.read? text with
  | none => .error (.parseFailed malformedReason)
  | some n =>
    match decode n with
    | .error e => .error (.parseFailed s!"{malformedReason}: {e.message}")
    | .ok s => s.check.map fun _ => s

end ClusterMonitor.Schema

import ClusterMonitor.Config.Environment
import ClusterMonitor.Config.Error
import ClusterMonitor.Json.Reader
import ClusterMonitor.Text.Utf8
import ClusterMonitor.Yaml.Reader

/-!
# Sources of a document

Where the layers of a document come from: a file, the environment, a value that is given, or any
other source that contributes one.

* `Source.read` — the layer that a source contributes in some surroundings.
* `Source.name` — how a source is called in messages.
-/

namespace ClusterMonitor

/-- A source of a layer. -/
inductive Source where
  | file (path : String)
  /-- The variables whose names start with the opening. -/
  | environment (opening : String)
  | given (value : Value)
  /-- Any other source, by its name and the layer that it contributes. -/
  | other (name : String) (layer : Surroundings → Except ConfigError Value)

namespace Source

def name : Source → String
  | .file path => s!"file:{path}"
  | .environment opening => s!"env:{opening}*"
  | .given _ => "static"
  | .other name _ => name

/-- Is the file of this path read as JSON? All others are read as YAML. -/
def isJson (path : String) : Bool :=
  match Path.extension? path with
  | some e => String.ofList (e.toList.map Char.toLower) == "json"
  | none => false

/-- A file with a JSON object. -/
def readJson? (text : String) : Option Value :=
  match Json.read? text with
  | some (.object members) => some (.object members)
  | _ => none

/-- A file with a YAML mapping. A scalar that is not there is an empty one, and the tag of the
document is of no account. -/
def readYaml? (text : String) : Option Value :=
  match (Yaml.read? text).map Node.bare with
  | some (.mapping members) => (Node.mapping members).tagsAsMembers.value?
  | some (.scalar .null (some "")) => some (.object [])
  | _ => none

/-- What is said of a file that cannot be read as a mapping. -/
def malformedReason : String := "not a mapping"

/-- The layer in a file. -/
def readFile (s : Surroundings) (path : String) : Except ConfigError Value :=
  match s.read path with
  | .error _ => .error (.sourceNotFound path)
  | .ok bytes =>
    let layer? := (Text.decode? bytes).bind fun text =>
      if isJson path then readJson? text else readYaml? text
    match layer? with
    | some v => .ok v
    | none => .error (.parseFailed s!"{path}: {malformedReason}")

/-- The layer that a source contributes. -/
def read (s : Surroundings) : Source → Except ConfigError Value
  | .file path => readFile s path
  | .environment opening => .ok (Environment.document opening s.environment)
  | .given value => .ok value
  | .other _ layer => layer s

end Source

end ClusterMonitor

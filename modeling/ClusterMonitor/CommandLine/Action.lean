import ClusterMonitor.CommandLine.Style
import ClusterMonitor.Config.Engine
import ClusterMonitor.Log.Router
import ClusterMonitor.Report.Failure
import ClusterMonitor.Template

/-!
# Actions of the commands

What the commands print and answer, given the files and variables around them.

* `Action.validate` — loads a document and reports on it; answers whether every instance is valid.
* `Action.plan` — what an instance would check for a service or a component.
* `Action.template` — an example document.
* `Action.coalesce` — the records of a log file; answers how many there are.
-/

namespace ClusterMonitor.CommandLine

/-- What a command has printed, and its answer. A command that fails has printed nothing. -/
structure Printed (α : Type) where
  text : String
  answer : α
deriving Repr

namespace Action

/-- Lines as a text. -/
def ofLines (lines : List String) : String := String.join (lines.map (· ++ "\n"))

/-- The configuration in a file, overridden by the environment. -/
def load (s : Surroundings) (e : Engine) : Except Failure Configuration :=
  (e.build s).mapError .ofConfig

/-! ## Validation -/

/-- The services of an instance in words. -/
def selectionText : ServiceSelection → String
  | .unrestricted => "all services"
  | .listed w =>
    if w.services.isEmpty then "no services"
    else "services: " ++ ", ".intercalate w.services

def okWord : String := "ok"

def failedWord : String := "FAILED"

/-- What became of an entry. The URL is shown without its password. -/
def outcomeLine (style : Style) (o : InstanceOutcome) : String :=
  let verdict :=
    match o.result with
    | .ok i => s!"{style.green okWord} {redact i.url.text} ({selectionText i.services})"
    | .error e => s!"{style.boldRed failedWord} {e.message}"
  s!"  instances[{o.index}] {verdict}"

/-- A diagnostic in the colour of its severity. -/
def diagnosticLine (style : Style) (d : Diagnostic) : String :=
  let line := redact d.text
  "  " ++ if d.isError then style.red line else style.yellow line

/-- The diagnostics under a heading, if there are any. -/
def diagnosticLines (style : Style) : List Diagnostic → List String
  | [] => []
  | ds => style.bold "Diagnostics:" :: ds.map (diagnosticLine style)

/-- The counts of instances and diagnostics. -/
def summaryLine (c : Configuration) : String :=
  let summary := Summary.ofDiagnostics c.diagnostics
  s!"Summary: {c.validInstances.length} valid, {c.failedInstances.length} failed, " ++
    s!"{summary.warnings} warnings, {summary.errors} errors"

/-- The validated document, its secrets masked. -/
def dumpLines (c : Configuration) (schema : Schema) : List String :=
  ["---", Unicode.trimEnd (Yaml.write (c.redactedValue schema))]

/-- The report on a configuration. -/
def report (style : Style) (file : String) (dump : Bool) (schema : Schema) (c : Configuration) :
    List String :=
  let counts := s!"({c.instances.length} instances, {c.logs.length} log sources)"
  let loaded := style.bold "Loaded" ++ s!" {file} {counts}"
  [loaded] ++ c.instances.map (outcomeLine style) ++ diagnosticLines style c.diagnostics ++
    [summaryLine c] ++ if dump then dumpLines c schema else []

/-- Reports on a file. -/
def validate (s : Surroundings) (style : Style) (file : String) (dump : Bool) : Except Failure (Printed Bool) := do
  let e := Engine.ofFile file
  let c ← load s e
  return ⟨ofLines (report style file dump e.schema c), c.failedInstances.isEmpty⟩

/-! ## Plans -/

/-- The instance with an index, or why there is none to plan for. -/
def chosenInstance (c : Configuration) (index : Nat) : Except Failure Instance :=
  match c.instance? index with
  | none =>
    .error (.config Code.invalidValue
      s!"no instance {index} (document has {c.instances.length})")
  | some o =>
    match o.result with
    | .error e => .error (.config e.code s!"instances[{index}] is invalid: {e.message}")
    | .ok i => .ok i

/-- Whether something is checked, in words. -/
def checkedText (style : Style) (flag : Bool) : String :=
  if flag then style.green "checked" else style.dimmed "skipped"

/-- The components of a plan in words. -/
def scopeText : ComponentScope → String
  | .all => "all"
  | .listed components => ", ".intercalate components
  | .none => "none"

/-- The metrics of a plan in words. -/
def metricsText : MetricSelection → String
  | .all => "all"
  | .headers [] => "none"
  | .headers listed => ", ".intercalate listed
  | .nothing => "none"

def serviceLines (style : Style) (service : String) (p : ServicePlan) : List String :=
  [style.bold service, s!"  status:     {checkedText style p.checkStatus}",
    s!"  components: {scopeText p.components}"]

def componentLines (style : Style) (service component : String) (p : ComponentPlan) :
    List String :=
  [style.bold s!"{service}/{component}", s!"  status:  {checkedText style p.checkStatus}",
    s!"  metrics: {metricsText p.metrics}"]

/-- A choice for a printed plan: its kind comes before what is listed. -/
def shownChoice (kind : String) (listed : Option (String × List String)) : Value :=
  .object (("kind", .string kind) ::
    (listed.map fun (name, texts) => (name, Value.ofStrings texts)).toList)

/-- The components of a plan as they are printed. -/
def shownScope : ComponentScope → Value
  | .all => shownChoice "all" none
  | .listed components => shownChoice "listed" (some ("components", components))
  | .none => shownChoice "none" none

/-- The metrics of a plan as they are printed. -/
def shownMetrics : MetricSelection → Value
  | .all => shownChoice "all" none
  | .headers listed => shownChoice "headers" (some ("headers", listed))
  | .nothing => shownChoice "nothing" none

/-- A plan as JSON. -/
def jsonPlan (status : Bool) (name : String) (choice : Value) : List String :=
  [Json.writePretty (.object [("check_status", .bool status), (name, choice)])]

/-- The plan for a service, or for one of its components. -/
def planLines (style : Style) (p : CollectionPlan) (service : String) (component : Option String)
    (json : Bool) : List String :=
  match component with
  | none =>
    let q := p.service service
    if json then jsonPlan q.checkStatus "components" (shownScope q.components)
    else serviceLines style service q
  | some component =>
    let q := p.component service component
    if json then jsonPlan q.checkStatus "metrics" (shownMetrics q.metrics)
    else componentLines style service component q

/-- Shows what an instance would check. -/
def plan (s : Surroundings) (style : Style) (file : String) (index : Nat) (service : String)
    (component : Option String) (json : Bool) : Except Failure (Printed Unit) := do
  let c ← load s (.ofFile file)
  let i ← chosenInstance c index
  return ⟨ofLines (planLines style (c.planFor i) service component json), ()⟩

/-! ## Templates -/

/-- Prints an example document. -/
def template (withLogs : Bool) : Except Failure (Printed Unit) := .ok ⟨Template.render .builtin withLogs, ()⟩

/-! ## Records -/

/-- The log sources of a file, or those that the program has. -/
def logSources (s : Surroundings) : Option String → Except Failure (List LogSource)
  | some file =>
    (load s { Engine.ofFile file with defaultLogs := true }).map Configuration.logs
  | none => .ok Schema.builtin.logs

/-- The bytes of a log file. A directory can be opened, and fails only when it is read. -/
def logBytes (s : Surroundings) (file : String) : Except Failure (List UInt8) :=
  match s.read file with
  | .ok bytes => .ok bytes
  | .error .isDirectory => .error (.ofLog (.readFailed ReadFault.isDirectory.message))
  | .error fault => .error (.io fault.message)

/-- A record as it is printed: what it says comes before where it is from. -/
def shownRecord (r : LogRecord) : Value :=
  .object <|
    [("content", Value.string r.content), ("line_count", .int r.lineCount)] ++
    (if r.truncated then [("truncated", Value.bool true)] else []) ++
    (r.source.map fun s => ("source", Value.string s)).toList ++
    (r.service.map fun s => ("service", Value.string s)).toList ++
    (if r.tags.isEmpty then [] else [("tags", Value.ofStrings r.tags)])

/-- A record under a heading with its number. -/
def recordLines (style : Style) (r : LogRecord) (number : Nat) : List String :=
  let cut := if r.truncated then ", truncated" else ""
  [style.cyan s!"#{number} ({r.lineCount} lines{cut})", r.content]

/-- Prints the records of a log file, routed as if it had another path if one is given. -/
def coalesce (s : Surroundings) (style : Style) (logFile : String) (file routeAs : Option String)
    (json : Bool) : Except Failure (Printed Nat) := do
  let sources ← logSources s file
  let router ← (Router.ofSources sources).mapError .ofLog
  let processor ← (router.processorFor (routeAs.getD logFile)).mapError .ofLog
  let bytes ← logBytes s logFile
  let records := (processor.processBytes bytes).2
  let lines :=
    if json then records.map fun r => Json.write (shownRecord r)
    else (records.zipIdx 1).flatMap fun (r, number) => recordLines style r number
  return ⟨ofLines lines, records.length⟩

end Action

end ClusterMonitor.CommandLine

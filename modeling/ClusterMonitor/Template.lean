import ClusterMonitor.Json.Writer
import ClusterMonitor.Schema.Basic
import ClusterMonitor.Text.Lines
import ClusterMonitor.Unicode.UpperCase
import ClusterMonitor.Unicode.Word
import ClusterMonitor.Yaml.Writer

/-!
# Configuration templates

Renders a schema as an example document that documents itself. Every option is shown with its
documentation and a value; the values of options that may be left out are commented out, so that
what is left is a document that can be read as it is.

* `Template.optionLines` — one option.
* `Template.instanceLines` — the options of an instance, of which the first required one opens the
  entry of `instances`.
* `Template.render` — the whole text.
-/

namespace ClusterMonitor.Template

/-- How far the options of a section stand in. -/
def indent : String := "    "

/-- How the first option of an entry of `instances` stands in. -/
def opening : String := "  - "

/-- The value that is shown for an option: its example, else its default, else its name as a
placeholder. -/
def shownValue (o : OptionSpec) : Value :=
  (o.value.«example».or o.value.default).getD (.string s!"<{Unicode.toUpper o.name}>")

/-- A default as it is told to people. -/
def defaultText : Value → String
  | .string text => text
  | v => Json.write v

/-- The line that names an option. -/
def parameterLine (o : OptionSpec) : String :=
  let need := if o.required then "required" else "optional"
  let fallback :=
    match o.value.default with
    | some v => s!" - default: {defaultText v}"
    | none => ""
  s!"@param {o.name} - {o.value.label} - {need}{fallback}"

/-- A line of a comment. -/
def commentLine (line : String) : String :=
  if Unicode.isBlankText line then "##" else s!"## {line}"

/-- The documentation of an option, line by line. -/
def documentation (o : OptionSpec) : List String :=
  (Text.splitLines '\n' (Unicode.trimEnd o.description).toList).map fun line =>
    commentLine (Text.dropCarriageReturn (String.ofList line))

/-- The lines of an option with its shown value. -/
def valueLines (o : OptionSpec) : List String := Yaml.lines (.object [(o.name, shownValue o)])

/-- The shown value where it counts. -/
def liveLines (opens : Bool) : List String → List String
  | [] => []
  | first :: rest => ((if opens then opening else indent) ++ first) :: rest.map (indent ++ ·)

/-- An option. With `opens`, the first line of a required one opens an entry. -/
def optionLines (o : OptionSpec) (opens : Bool) : List String :=
  ["", indent ++ "## " ++ parameterLine o] ++ (documentation o).map (indent ++ ·) ++
    [indent ++ "#"] ++
    if o.required then liveLines opens (valueLines o)
    else (valueLines o).map fun line => indent ++ "# " ++ line

/-- The options of an entry, whose first required one opens it unless it is open. -/
def instanceLines : Bool → List OptionSpec → List String
  | _, [] => []
  | isOpen, o :: rest => optionLines o (!isOpen) ++ instanceLines (isOpen || o.required) rest

/-- The comment above the log sources. -/
def logHeader : List String :=
  ["## Log Section",
    "##",
    "## type - required - Type of log input source (tcp / udp / file).",
    "## port / path - required - Set port if type is tcp or udp. Set path if type is file.",
    "## service - required - The name of the service owning the log.",
    "## source - required - The integration the log belongs to.",
    "## log_processing_rules - optional - Rules applied to lines before they become records,",
    "##                                   e.g. `multi_line` to join a stack trace to its first line.",
    "#"]

/-- The log sources, commented out. -/
def logLines (sources : List LogSource) : List String :=
  let document := Value.object [("logs", .array (sources.map LogSource.toValue))]
  logHeader ++ (Yaml.lines document).map ("# " ++ ·)

/-- The lines of a template, with the log sources of the schema if wanted. -/
def lines (s : Schema) (withLogs : Bool) : List String :=
  let shared := s.optionsByPriority .initConfig
  let own := s.optionsByPriority .instances
  ["## All options defined here are available to all instances.", "#", "init_config:"] ++
    shared.flatMap (fun o => optionLines o false) ++
    ["", "## Every instance is scheduled independently of the others.", "#", "instances:"] ++
    (if own.any (·.required) then [] else ["  -"]) ++
    instanceLines false own ++
    if withLogs && !s.logs.isEmpty then "" :: logLines s.logs else []

/-- The template of a schema. -/
def render (s : Schema) (withLogs : Bool) : String :=
  String.join ((lines s withLogs).map (· ++ "\n"))

end ClusterMonitor.Template

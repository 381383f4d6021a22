import ClusterMonitor.Instance
import ClusterMonitor.Plan

/-!
# Configurations

A whole document: the shared section, the instances and the log sources. Instances are judged one by
one, and one that fails is kept as a failure beside the others. Only what is wrong with the document
as a whole fails the document.

* `Configuration` — the validated document with all its diagnostics.
* `Configuration.read` — reads a document value.
* `Configuration.toValue` and `Configuration.redactedValue` — the document form of what is valid, as
  it is and as it may be shown.
-/

namespace ClusterMonitor

/-- Why a document is refused as a whole. -/
inductive DocumentFault where
  | notMapping (found : String)
  | noInstances
  | instancesNotSequence (found : String)
  | missingInstances
deriving DecidableEq, Repr

namespace DocumentFault

def message : DocumentFault → String
  | .notMapping found => s!"document must be a mapping, got {found}"
  | .noInstances => "`instances` must list at least one instance"
  | .instancesNotSequence found => s!"`instances` must be a sequence, got {found}"
  | .missingInstances => "missing `instances` sequence"

def error (f : DocumentFault) : ConfigError := .parseFailed f.message

end DocumentFault

/-- What became of one entry of `instances`. -/
structure InstanceOutcome where
  index : Nat
  result : Except ConfigError Instance

/-- A validated document. -/
structure Configuration where
  init : InitSection
  instances : List InstanceOutcome
  logs : List LogSource
  diagnostics : List Diagnostic

namespace Configuration

/-- The members of a document that mean something. -/
def knownKeys : List String := ["init_config", "instances", "logs"]

/-- The members of a document and the entries of its `instances`. -/
def entriesOf (document : Value) : Except DocumentFault (Dict Value × List Value) :=
  match document with
  | .object members =>
    match Dict.get? members "instances" with
    | some (.array []) => .error .noInstances
    | some (.array entries) => .ok (members, entries)
    | some v => .error (.instancesNotSequence v.describe)
    | none => .error .missingInstances
  | v => .error (.notMapping v.describe)

/-- Reads one entry; a failure is reported for the instance. -/
def readInstance (s : Schema) (index : Nat) (entry : Value) :
    InstanceOutcome × List Diagnostic :=
  match Instance.read s index entry with
  | (.ok i, reports) => (⟨index, .ok i⟩, reports)
  | (.error e, reports) =>
    (⟨index, .error e⟩, reports ++ [.error e.code (.instance index) e.message])

/-- Reads entries, counted from `index`. -/
def readInstances (s : Schema) (index : Nat) :
    List Value → List InstanceOutcome × List Diagnostic
  | [] => ([], [])
  | entry :: rest =>
    let (outcome, reports) := readInstance s index entry
    let (outcomes, later) := readInstances s (index + 1) rest
    (outcome :: outcomes, reports ++ later)

/-- Reads one entry of `logs`, or says why it is dropped. -/
def readLog (entry : Value) : Except String LogSource :=
  match LogSource.decode (Node.ofValue entry) with
  | .error e => .error e.message
  | .ok source =>
    match source.validate with
    | .error e => .error e.message
    | .ok () => .ok source

/-- Reads entries of `logs`, counted from `index`. -/
def readLogEntries (index : Nat) : List Value → List LogSource × List Diagnostic
  | [] => ([], [])
  | entry :: rest =>
    let (sources, later) := readLogEntries (index + 1) rest
    match readLog entry with
    | .ok source => (source :: sources, later)
    | .error reason =>
      (sources, .error Code.invalidLogSource (.logSource index) reason :: later)

/-- Reads the `logs` of a document. -/
def readLogs : Option Value → List LogSource × List Diagnostic
  | none => ([], [])
  | some .null => ([], [])
  | some (.array entries) => readLogEntries 0 entries
  | some v =>
    ([], [.error Code.invalidLogSource .document
      s!"`logs` must be a sequence, got {v.describe}; ignored"])

/-- The reports on members of the document that mean nothing. -/
def unknownMembers (members : Dict Value) : List Diagnostic :=
  ((Dict.keys members).filter fun key => !knownKeys.contains key).map fun key =>
    .warning Code.unknownOption .document s!"unknown top-level key `{key}` ignored"

/-- Reads a document. -/
def read (s : Schema) (document : Value) : Except ConfigError Configuration :=
  match entriesOf document with
  | .error fault => .error fault.error
  | .ok (members, entries) =>
    let (init, initReports) := InitSection.read s (Dict.get? members "init_config")
    let (instances, instanceReports) := readInstances s 0 entries
    let (logs, logReports) := readLogs (Dict.get? members "logs")
    .ok {
      init, instances, logs
      diagnostics := initReports ++ instanceReports ++ logReports ++ unknownMembers members }

/-- The instance of an outcome, if it is valid. -/
def valid? (o : InstanceOutcome) : Option (Nat × Instance) :=
  match o.result with
  | .ok i => some (o.index, i)
  | .error _ => none

/-- The error of an outcome, if it failed. -/
def failed? (o : InstanceOutcome) : Option (Nat × ConfigError) :=
  match o.result with
  | .ok _ => none
  | .error e => some (o.index, e)

/-- The valid instances with their indices. -/
def validInstances (c : Configuration) : List (Nat × Instance) := c.instances.filterMap valid?

/-- The errors of the failed instances with their indices. -/
def failedInstances (c : Configuration) : List (Nat × ConfigError) :=
  c.instances.filterMap failed?

/-- The outcome with this index. -/
def instance? (c : Configuration) (index : Nat) : Option InstanceOutcome :=
  c.instances.find? fun o => o.index == index

/-- Is there a diagnostic that is an error? -/
def hasErrors (c : Configuration) : Bool := c.diagnostics.any Diagnostic.isError

/-- The collection plan of an instance. -/
def planFor (c : Configuration) (i : Instance) : CollectionPlan := .ofInit c.init i.services

/-- The document form of the valid parts. -/
def toValue (c : Configuration) : Value :=
  .ofPairs <|
    [("init_config", c.init.toValue),
      ("instances", .array (c.validInstances.map fun (_, i) => i.toValue))] ++
    (if c.logs.isEmpty then [] else [("logs", .array (c.logs.map LogSource.toValue))])

/-- The document form as it may be shown: secret options and credentials in texts are masked. -/
def redactedValue (c : Configuration) (s : Schema) : Value :=
  ({} : Redactor).redactValue s.secretKeys c.toValue

end Configuration

end ClusterMonitor

import ClusterMonitor.Decode.Basic

/-!
# Diagnostics

A diagnostic is a problem found in a document, with the part of the document that it concerns.
Problems never travel beyond their scope: what is wrong with one instance leaves the others alone.

* `ErrorScope` — parts of a document; `ErrorScope.instance?` is the instance that a part lies in.
* `Diagnostic` — code, severity, scope and message; `Diagnostic.text` is its line in a report.
* `Summary` — counts of warnings and errors.
-/

namespace ClusterMonitor

/-- The part of a document that a problem concerns. -/
inductive ErrorScope where
  /-- The document as a whole. -/
  | document
  /-- The section that all instances share. -/
  | initConfig
  /-- An entry of `instances`. -/
  | «instance» (index : Nat)
  /-- An option, inside an instance or in the shared section. -/
  | key (instanceIndex : Option Nat) (option : String)
  /-- A service of a whitelist, or one component of it. -/
  | subtree (instanceIndex : Nat) (service : String) (component : Option String)
  /-- An entry of `logs`. -/
  | logSource (index : Nat)
deriving DecidableEq, Repr

namespace ErrorScope

/-- The instance that the scope lies in, if it lies in one. -/
def instance? : ErrorScope → Option Nat
  | .instance index => some index
  | .key instanceIndex _ => instanceIndex
  | .subtree instanceIndex _ _ => some instanceIndex
  | _ => none

/-- The scope as a path into the document. -/
def text : ErrorScope → String
  | .document => "document"
  | .initConfig => "init_config"
  | .instance index => s!"instances[{index}]"
  | .key (some index) option => s!"instances[{index}].{option}"
  | .key none option => s!"init_config.{option}"
  | .subtree index service (some component) =>
    s!"instances[{index}].services.{service}.{component}"
  | .subtree index service none => s!"instances[{index}].services.{service}"
  | .logSource index => s!"logs[{index}]"

private def optionalText : Option String → Value
  | none => .null
  | some s => .string s

private def optionalIndex : Option Nat → Value
  | none => .null
  | some n => .int n

/-- The document form: an object whose `kind` says which of the scopes it is. -/
def toValue : ErrorScope → Value
  | .document => .ofPairs [("kind", .string "document")]
  | .initConfig => .ofPairs [("kind", .string "init_config")]
  | .instance index => .ofPairs [("kind", .string "instance"), ("index", .int index)]
  | .key instanceIndex option =>
    .ofPairs [("kind", .string "key"), ("instance", optionalIndex instanceIndex),
      ("option", .string option)]
  | .subtree instanceIndex service component =>
    .ofPairs [("kind", .string "subtree"), ("instance", .int instanceIndex),
      ("service", .string service), ("component", optionalText component)]
  | .logSource index => .ofPairs [("kind", .string "log_source"), ("index", .int index)]

/-- The kinds of scopes, with a scope of each kind that is still to be filled in. -/
def kinds : List (String × ErrorScope) :=
  [("document", .document), ("init_config", .initConfig), ("instance", .instance 0),
    ("key", .key none ""), ("subtree", .subtree 0 "" none), ("log_source", .logSource 0)]

/-- Decodes a number that counts entries of a list. -/
def decodeIndex (n : Node) : Decoded Nat :=
  (Decode.integer 0 (Nat.pow 2 64 - 1) "usize" n).map Int.toNat

private def indexField (write : Nat → ErrorScope) : Decode.Field ErrorScope :=
  { name := "index", write := fun _ n => (decodeIndex n).map write }

/-- The shape and the fields of each kind of scope. -/
def shapeOf : ErrorScope → String × List (Decode.Field ErrorScope) × ErrorScope
  | .document => ("unit variant ErrorScope::Document", [], .document)
  | .initConfig => ("unit variant ErrorScope::InitConfig", [], .initConfig)
  | .instance i => ("struct variant ErrorScope::Instance", [indexField .instance], .instance i)
  | .logSource i =>
    ("struct variant ErrorScope::LogSource", [indexField .logSource], .logSource i)
  | .key i o =>
    ("struct variant ErrorScope::Key",
      [{ name := "instance", optional := true
         write := fun s n => do
          let i ← Decode.optional decodeIndex n
          return match s with
            | .key _ option => .key i option
            | s => s },
       { name := "option"
         write := fun s n => do
          let o ← Decode.text n
          return match s with
            | .key i _ => .key i o
            | s => s }], .key i o)
  | .subtree i s c =>
    ("struct variant ErrorScope::Subtree",
      [{ name := "instance"
         write := fun t n => do
          let i ← decodeIndex n
          return match t with
            | .subtree _ s c => .subtree i s c
            | t => t },
       { name := "service"
         write := fun t n => do
          let s ← Decode.text n
          return match t with
            | .subtree i _ c => .subtree i s c
            | t => t },
       { name := "component", optional := true
         write := fun t n => do
          let c ← Decode.optional Decode.text n
          return match t with
            | .subtree i s _ => .subtree i s c
            | t => t }], .subtree i s c)

/-- Decodes a scope from its document form. -/
def decode : Node → Decoded ErrorScope :=
  Decode.tagged "internally tagged enum ErrorScope" "kind" kinds shapeOf

end ErrorScope

/-- How serious a problem is for its scope. Warnings come before errors. -/
inductive Severity where
  /-- Recovered: a default was used, or something was ignored. -/
  | warning
  /-- Fatal for the scope. -/
  | error
deriving DecidableEq, Repr

namespace Severity

def text : Severity → String
  | .warning => "warning"
  | .error => "error"

/-- The more serious of two. -/
def max : Severity → Severity → Severity
  | .warning, .warning => .warning
  | _, _ => .error

def decode : Node → Decoded Severity :=
  Decode.choice [("warning", .warning), ("error", .error)]

end Severity

/-- A problem found in a document. -/
structure Diagnostic where
  code : String
  severity : Severity
  scope : ErrorScope
  message : String
deriving DecidableEq, Repr

namespace Diagnostic

def warning (code : String) (scope : ErrorScope) (message : String) : Diagnostic :=
  ⟨code, .warning, scope, message⟩

def error (code : String) (scope : ErrorScope) (message : String) : Diagnostic :=
  ⟨code, .error, scope, message⟩

def isError (d : Diagnostic) : Bool := d.severity == .error

/-- The diagnostic as a line of a report. -/
def text (d : Diagnostic) : String :=
  s!"[{d.code}] {d.severity.text} at {d.scope.text}: {d.message}"

def toValue (d : Diagnostic) : Value :=
  .ofPairs [("code", .string d.code), ("severity", .string d.severity.text),
    ("scope", d.scope.toValue), ("message", .string d.message)]

/-- Decodes a diagnostic from its document form. -/
def decode : Node → Decoded Diagnostic :=
  Decode.record "struct Diagnostic"
    [{ name := "code", write := fun d n => (Decode.text n).map fun x => { d with code := x } },
     { name := "severity"
       write := fun d n => (Severity.decode n).map fun x => { d with severity := x } },
     { name := "scope", write := fun d n => (ErrorScope.decode n).map fun x => { d with scope := x } },
     { name := "message", write := fun d n => (Decode.text n).map fun x => { d with message := x } }]
    ⟨"", .warning, .document, ""⟩

/-- The highest severity among some diagnostics. -/
def worst? : List Diagnostic → Option Severity
  | [] => none
  | d :: rest => some (((worst? rest).map d.severity.max).getD d.severity)

end Diagnostic

/-- Counts of diagnostics by severity. -/
structure Summary where
  warnings : Nat
  errors : Nat
deriving DecidableEq, Repr

/-- Counts the warnings and the errors. -/
def Summary.ofDiagnostics (ds : List Diagnostic) : Summary :=
  ⟨ds.countP (fun d => !d.isError), ds.countP Diagnostic.isError⟩

end ClusterMonitor

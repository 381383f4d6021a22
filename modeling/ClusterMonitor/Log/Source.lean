import ClusterMonitor.Log.Rule
import ClusterMonitor.Unicode.Word

/-!
# Log sources

Where logs come from, how they are labelled and which rules their lines go through.

* `LogSource.validate` — says why a source cannot be used.
* `LogSource.decode` and `LogSource.toValue` — the document form; empty fields are left out of it.
-/

namespace ClusterMonitor

/-- The ways in which logs arrive. -/
inductive SourceKind where
  | file
  | tcp
  | udp
deriving DecidableEq, Repr

namespace SourceKind

def text : SourceKind → String
  | .file => "file"
  | .tcp => "tcp"
  | .udp => "udp"

def known : List (String × SourceKind) := [("file", .file), ("tcp", .tcp), ("udp", .udp)]

end SourceKind

/-- A source of log lines. -/
structure LogSource where
  kind : SourceKind
  path : Option String := none
  port : Option Nat := none
  source : Option String := none
  service : Option String := none
  tags : List String := []
  rules : List Rule := []

namespace LogSource

/-- A file with its labels. -/
def file (path source service : String) : LogSource :=
  { kind := .file, path := some path, source := some source, service := some service }

/-- The source with one more rule. -/
def withRule (s : LogSource) (rule : Rule) : LogSource := { s with rules := s.rules ++ [rule] }

/-- The rule that joins lines: the first one of its kind. -/
def multiLineRule? (s : LogSource) : Option Rule := s.rules.find? Rule.isMultiLine

def same (s t : LogSource) : Bool :=
  s.kind == t.kind && s.path == t.path && s.port == t.port && s.source == t.source &&
    s.service == t.service && s.tags == t.tags && s.rules == t.rules

instance : BEq LogSource := ⟨same⟩

/-- The reason why a source cannot be used, the first one of: no place to read from, an empty label,
a rule without a name. -/
def fault? (s : LogSource) : Option String :=
  let place := match s.kind with
    | .file =>
      if (s.path.map Unicode.isBlankText).getD true then
        some "a `file` log source requires a non-empty `path`"
      else none
    | kind =>
      if s.port.getD 0 = 0 then
        some s!"a `{kind.text}` log source requires a non-zero `port`"
      else none
  let label (field : String) (value : Option String) : Option String :=
    if (value.map Unicode.isBlankText).getD false then some s!"`{field}` must not be empty when provided"
    else none
  let nameless := (s.rules.find? fun r => Unicode.isBlankText r.name).map fun r =>
    s!"`{r.kind}` processing rule requires a `name`"
  place <|> label "source" s.source <|> label "service" s.service <|> nameless

/-- Accepts a source, or says why it cannot be used. -/
def validate (s : LogSource) : Except LogError Unit :=
  match s.fault? with
  | some reason => .error (.invalidSource reason)
  | none => .ok ()

/-- The document form; absent and empty fields are left out. -/
def toValue (s : LogSource) : Value :=
  let text (key : String) (v : Option String) := (v.map fun x => (key, Value.string x)).toList
  .ofPairs <|
    [("type", Value.string s.kind.text)] ++ text "path" s.path ++
    (s.port.map fun n => ("port", Value.int n)).toList ++ text "source" s.source ++
    text "service" s.service ++
    (if s.tags.isEmpty then [] else [("tags", Value.ofStrings s.tags)]) ++
    (if s.rules.isEmpty then []
      else [("log_processing_rules", Value.array (s.rules.map Rule.toValue))])

/-- The fields of the document form. -/
def fields : List (Decode.Field LogSource) :=
  let text := Decode.optional Decode.text
  [{ name := "type"
     write := fun s n => (Decode.choice SourceKind.known n).map fun x => { s with kind := x } },
   { name := "path", optional := true
     write := fun s n => (text n).map fun x => { s with path := x } },
   { name := "port", optional := true
     write := fun s n =>
      (Decode.optional (Decode.integer 0 65535 "u16") n).map fun x =>
        { s with port := x.map Int.toNat } },
   { name := "source", optional := true
     write := fun s n => (text n).map fun x => { s with source := x } },
   { name := "service", optional := true
     write := fun s n => (text n).map fun x => { s with service := x } },
   { name := "tags", optional := true
     write := fun s n => (Decode.list Decode.text n).map fun x => { s with tags := x } },
   { name := "log_processing_rules", optional := true
     write := fun s n => (Decode.list Rule.decode n).map fun x => { s with rules := x } }]

/-- Decodes a source from its document form. -/
def decode : Node → Decoded LogSource :=
  Decode.record "struct LogSource" fields { kind := .file }

end LogSource

end ClusterMonitor

import ClusterMonitor.Log.Source
import ClusterMonitor.Schema.ValueSpec

/-!
# The option schema

A schema declares the options of the two scopes of a document, the section that all instances share
and the instances themselves, and offers example log sources.

* `OptionSpec` — an option with its documentation and its value specification.
* `Schema` — the options of both scopes and the log sources.
* `Schema.options`, `Schema.option?`, `Schema.optionsByPriority`, `Schema.secretKeys` — views.
-/

namespace ClusterMonitor

/-- The parts of a document that options are declared for. -/
inductive OptionScope where
  | initConfig
  | instances
deriving DecidableEq, Repr

namespace OptionScope

/-- The name of the scope, which is the key of its part of a document. -/
def text : OptionScope → String
  | .initConfig => "init_config"
  | .instances => "instances"

end OptionScope

/-- A declared option. -/
structure OptionSpec where
  name : String
  description : String := ""
  required : Bool := false
  /-- A hint for the order of display: larger comes first. -/
  displayPriority : Int := 0
  /-- The value must never be shown. -/
  secret : Bool := false
  /-- What to tell those who still use the option. -/
  deprecated : Option String := none
  value : ValueSpec

namespace OptionSpec

/-- The document form; what has its default is left out, the description excepted. -/
def toValue (o : OptionSpec) : Value :=
  .ofPairs <|
    [("name", Value.string o.name), ("description", .string o.description)] ++
    (if o.required then [("required", Value.bool true)] else []) ++
    (if o.displayPriority = 0 then [] else [("display_priority", Value.int o.displayPriority)]) ++
    (if o.secret then [("secret", Value.bool true)] else []) ++
    (o.deprecated.map fun note => ("deprecated", Value.string note)).toList ++
    [("value", o.value.toValue)]

def fields : List (Decode.Field OptionSpec) :=
  [{ name := "name", write := fun o n => (Decode.text n).map fun x => { o with name := x } },
   { name := "description", optional := true
     write := fun o n => (Decode.text n).map fun x => { o with description := x } },
   { name := "required", optional := true
     write := fun o n => (Decode.flag n).map fun x => { o with required := x } },
   { name := "display_priority", optional := true
     write := fun o n =>
      (Decode.integer (-2147483648) 2147483647 "i32" n).map fun x =>
        { o with displayPriority := x } },
   { name := "secret", optional := true
     write := fun o n => (Decode.flag n).map fun x => { o with secret := x } },
   { name := "deprecated", optional := true
     write := fun o n =>
      (Decode.optional Decode.text n).map fun x => { o with deprecated := x } },
   { name := "value"
     write := fun o n => (ValueSpec.decode n).map fun x => { o with value := x } }]

/-- Decodes an option from its document form. -/
def decode : Node → Decoded OptionSpec :=
  Decode.record "struct OptionSpec" fields { name := "", value := { type := .boolean } }

end OptionSpec

/-- A schema. -/
structure Schema where
  name : String
  initConfig : List OptionSpec := []
  instances : List OptionSpec := []
  /-- Example log sources, which may serve as a default. -/
  logs : List LogSource := []

namespace Schema

/-- The options of a scope, in document order. -/
def options (s : Schema) : OptionScope → List OptionSpec
  | .initConfig => s.initConfig
  | .instances => s.instances

/-- The option of this name in a scope. -/
def option? (s : Schema) (scope : OptionScope) (name : String) : Option OptionSpec :=
  (s.options scope).find? fun o => o.name == name

/-- The options of a scope for display: larger priorities first, else in document order. -/
def optionsByPriority (s : Schema) (scope : OptionScope) : List OptionSpec :=
  (s.options scope).mergeSort fun a b => decide (b.displayPriority ≤ a.displayPriority)

/-- The names of the options whose values must not be shown. -/
def secretKeys (s : Schema) : List String :=
  ((s.initConfig ++ s.instances).filter (·.secret)).map (·.name)

def toValue (s : Schema) : Value :=
  .ofPairs [("name", .string s.name), ("init_config", .array (s.initConfig.map (·.toValue))),
    ("instances", .array (s.instances.map (·.toValue))),
    ("logs", .array (s.logs.map (·.toValue)))]

def fields : List (Decode.Field Schema) :=
  [{ name := "name", write := fun s n => (Decode.text n).map fun x => { s with name := x } },
   { name := "init_config", optional := true
     write := fun s n =>
      (Decode.list OptionSpec.decode n).map fun x => { s with initConfig := x } },
   { name := "instances", optional := true
     write := fun s n =>
      (Decode.list OptionSpec.decode n).map fun x => { s with instances := x } },
   { name := "logs", optional := true
     write := fun s n => (Decode.list LogSource.decode n).map fun x => { s with logs := x } }]

/-- Decodes a schema from its document form. -/
def decode : Node → Decoded Schema :=
  Decode.record "struct SchemaDocument" fields { name := "" }

end Schema

end ClusterMonitor

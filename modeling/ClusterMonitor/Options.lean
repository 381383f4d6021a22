import ClusterMonitor.Report.Diagnostic
import ClusterMonitor.Schema.Check

/-!
# Checking supplied options

The options that a document supplies for one scope, held against the schema. An instance is held
strictly: it fails without a required option, and with an unusable value that no default can stand
in for. The shared section drops such a value and goes on.

* `Options` — the values that are left, by option name, defaults filled in.
* `Checker.checkOption` — what becomes of one option.
* `Checker.check` — all options of a scope, in schema order; then each unknown key is reported.
-/

namespace ClusterMonitor

/-- The values of a scope, by the names of its options. -/
abbrev Options := Dict Value

namespace Options

def bool? (o : Options) (name : String) : Option Bool := (Dict.get? o name).bind Value.asBool?

def string? (o : Options) (name : String) : Option String :=
  (Dict.get? o name).bind Value.asString?

def float? (o : Options) (name : String) : Option Float := (Dict.get? o name).bind Value.asFloat?

/-- The texts in an array; other items are passed over. -/
def strings (o : Options) (name : String) : List String :=
  match (Dict.get? o name).bind Value.asArray? with
  | some items => items.filterMap Value.asString?
  | none => []

end Options

namespace OptionSpec

/-- Holds a supplied value against the specification of the option. -/
def checkValue (o : OptionSpec) (v : Value) : Except ConfigError Unit :=
  match o.value.checkType v with
  | .error fault => .error (.typeMismatch o.name fault.expected fault.actual)
  | .ok () =>
    match o.value.checkAllowed v with
    | .error fault => .error (.invalidValue o.name fault.message)
    | .ok () => .ok ()

end OptionSpec

/-- The part of a document that is checked. -/
inductive Checker.Place where
  | initConfig
  | «instance» (index : Nat)
deriving DecidableEq, Repr

/-- Checks supplied values against the options of one scope. -/
structure Checker where
  options : List OptionSpec
  place : Checker.Place

namespace Checker

/-- The checker of the shared section. -/
def ofInitConfig (s : Schema) : Checker := ⟨s.initConfig, .initConfig⟩

/-- The checker of one instance. -/
def ofInstance (s : Schema) (index : Nat) : Checker := ⟨s.instances, .instance index⟩

/-- The scope of the part that is checked. -/
def Place.scope : Place → OptionScope
  | .initConfig => .initConfig
  | .instance _ => .instances

/-- The place of an option in the document. -/
def Place.key (p : Place) (option : String) : ErrorScope :=
  match p with
  | .initConfig => .key none option
  | .instance index => .key (some index) option

/-- The report on a supplied option that is deprecated. -/
def deprecation (p : Place) (o : OptionSpec) : List Diagnostic :=
  match o.deprecated with
  | some note =>
    [.warning Code.deprecatedOption (p.key o.name) s!"option `{o.name}` is deprecated: {note}"]
  | none => []

/-- What stands in for an unusable value, with the report on it: the default, or nothing in the
shared section. An instance fails. -/
def recover (p : Place) (o : OptionSpec) (e : ConfigError) :
    Except ConfigError (Option Value) × List Diagnostic :=
  match o.value.default with
  | some v =>
    (.ok (some v),
      [.warning e.code (p.key o.name) (e.message ++ "; using default " ++ Json.write v)])
  | none =>
    match p with
    | .instance _ => (.error e, [])
    | .initConfig =>
      (.ok none, [.error e.code (p.key o.name) (e.message ++ "; option ignored")])

/-- The value of one option, with the reports on it. -/
def checkOption (p : Place) (supplied : Dict Value) (o : OptionSpec) :
    Except ConfigError (Option Value) × List Diagnostic :=
  match Value.given? supplied o.name with
  | none =>
    if o.required then (.error (.missingRequiredOption o.name), [])
    else (.ok o.value.default, [])
  | some v =>
    match o.checkValue v with
    | .ok () => (.ok (some v), deprecation p o)
    | .error e =>
      let (result, reports) := recover p o e
      (result, deprecation p o ++ reports)

/-- The values of some options, written over those found before. The first option that fails ends
the check. -/
def checkOptions (p : Place) (supplied : Dict Value) :
    Options → List OptionSpec → Except ConfigError Options × List Diagnostic
  | found, [] => (.ok found, [])
  | found, o :: rest =>
    match checkOption p supplied o with
    | (.error e, reports) => (.error e, reports)
    | (.ok v, reports) =>
      let found := match v with
        | some v => Dict.set found o.name v
        | none => found
      let (result, later) := checkOptions p supplied found rest
      (result, reports ++ later)

/-- The report on a key that no option has. -/
def unknownKey (p : Place) (key : String) : Diagnostic :=
  .warning Code.unknownOption (p.key key) s!"unknown option `{key}` ignored"

/-- The reports on all keys that no option has. -/
def unknownKeys (c : Checker) (supplied : Dict Value) : List Diagnostic :=
  ((Dict.keys supplied).filter fun key => !c.options.any (·.name == key)).map
    (unknownKey c.place)

/-- Checks the supplied values. Unknown keys are reported when no option has failed. -/
def check (c : Checker) (supplied : Dict Value) : Except ConfigError Options × List Diagnostic :=
  match checkOptions c.place supplied [] c.options with
  | (.error e, reports) => (.error e, reports)
  | (.ok found, reports) => (.ok found, reports ++ c.unknownKeys supplied)

/-- Does a value pass as this scope of a document? The reports are dropped. -/
def validate (c : Checker) (v : Value) : Except ConfigError Unit :=
  match v with
  | .object supplied => ((c.check supplied).1).map fun _ => ()
  | _ => .error (.typeMismatch c.place.scope.text ValueType.object.text v.describe)

end Checker

end ClusterMonitor

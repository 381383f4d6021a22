import ClusterMonitor.Config.Error
import ClusterMonitor.Schema.Basic
import ClusterMonitor.Unicode.Word

/-!
# Consistency of a schema

A schema is held to its own rules before it is used on documents.

* `SchemaFault` — the causes of refusal and their wording.
* `OptionSpec.fault?` — what is wrong with the value specification of one option.
* `Schema.fault?` and `Schema.check` — the first fault of a whole schema.
-/

namespace ClusterMonitor

/-- Why the value specification of an option contradicts itself. -/
inductive SpecFault where
  | itemsOfNoArray
  | boundsOfNoNumber
  | boundsCross (minimum maximum : Float)
  | listOfNoString
  | wrongType (part : String) (fault : TypeFault)
  | notAllowed (part : String) (fault : RangeFault)
deriving Repr

def SpecFault.message : SpecFault → String
  | .itemsOfNoArray => "`items` is only valid for arrays"
  | .boundsOfNoNumber => "`minimum` and `maximum` are only valid for numbers"
  | .boundsCross minimum maximum =>
    "minimum " ++ Decimal.Layout.message.write minimum ++ " exceeds maximum " ++
      Decimal.Layout.message.write maximum
  | .listOfNoString => "`enum` is only valid for strings"
  | .wrongType part fault => s!"{part} must be {fault.expected}, got {fault.actual}"
  | .notAllowed part fault => part ++ " " ++ fault.message

/-- Why a schema is refused. -/
inductive SchemaFault where
  | emptyName (scope : OptionScope)
  | duplicateOption (name : String) (scope : OptionScope)
  | spec (scope : OptionScope) (name : String) (fault : SpecFault)
  | nothingRequired
  | logSource (index : Nat) (error : LogError)
deriving Repr

def SchemaFault.message : SchemaFault → String
  | .emptyName scope => s!"{scope.text} option with an empty name"
  | .duplicateOption name scope => s!"duplicate option `{name}` in {scope.text}"
  | .spec scope name fault => s!"{scope.text}.{name}: " ++ fault.message
  | .nothingRequired => "instances must declare at least one required option"
  | .logSource index error => s!"logs[{index}]: " ++ error.message

namespace ValueSpec

/-- The type fault of a part of the specification, if the part is there. -/
def partFault? (s : ValueSpec) (part : String) (v : Option Value) : Option SpecFault :=
  match v.map s.checkType with
  | some (.error fault) => some (.wrongType part fault)
  | _ => none

/-- Do the bounds leave no number? -/
def boundsFault? (s : ValueSpec) : Option SpecFault :=
  match s.minimum, s.maximum with
  | some minimum, some maximum =>
    if maximum < minimum then some (.boundsCross minimum maximum) else none
  | _, _ => none

/-- The fault of a default that its own specification does not allow. -/
def defaultFault? (s : ValueSpec) : Option SpecFault :=
  match s.default.map s.checkAllowed with
  | some (.error fault) => some (.notAllowed "default" fault)
  | _ => none

/-- The first contradiction in a specification. -/
def fault? (s : ValueSpec) : Option SpecFault :=
  if s.items.isSome ∧ s.type ≠ .array then some .itemsOfNoArray
  else if (s.minimum.isSome ∨ s.maximum.isSome) ∧ !s.type.isNumeric then some .boundsOfNoNumber
  else
    s.boundsFault?
    <|> (if !s.allowed.isEmpty ∧ s.type ≠ .string then some .listOfNoString else none)
    <|> s.partFault? "default" s.default
    <|> s.partFault? "example" s.example
    <|> s.defaultFault?

end ValueSpec

namespace Schema

/-- The first fault among the options of a scope, given the names that come before. -/
def optionsFault? (scope : OptionScope) (seen : List String) : List OptionSpec → Option SchemaFault
  | [] => none
  | o :: rest =>
    if Unicode.isBlankText o.name then some (.emptyName scope)
    else if seen.contains o.name then some (.duplicateOption o.name scope)
    else
      match o.value.fault? with
      | some fault => some (.spec scope o.name fault)
      | none => optionsFault? scope (o.name :: seen) rest

/-- The first unusable log source, counted from `index`. -/
def logsFault? (index : Nat) : List LogSource → Option SchemaFault
  | [] => none
  | source :: rest =>
    match source.validate with
    | .error e => some (.logSource index e)
    | .ok () => logsFault? (index + 1) rest

/-- The first fault of a schema. -/
def fault? (s : Schema) : Option SchemaFault :=
  optionsFault? .initConfig [] s.initConfig
  <|> optionsFault? .instances [] s.instances
  <|> (if s.instances.any (·.required) then none else some .nothingRequired)
  <|> logsFault? 0 s.logs

/-- Refuses a schema with a fault. -/
def check (s : Schema) : Except ConfigError Unit :=
  match s.fault? with
  | some fault => .error (.invalidSchema fault.message)
  | none => .ok ()

end Schema

end ClusterMonitor

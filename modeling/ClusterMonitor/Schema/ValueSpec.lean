import ClusterMonitor.Decode.Basic
import ClusterMonitor.Json.Writer

/-!
# Value specifications

What an option's value may be: its type, and beyond that the texts or the range that are allowed.

* `ValueType` — the type tags; `ValueType.accepts` says which values have a type.
* `ValueSpec` — a type with an example, a default, the type of items, allowed texts and bounds.
* `ValueSpec.checkType` and `ValueSpec.checkAllowed` — the two checks on a supplied value, with the
  cause of a refusal.
* `ValueSpec.decode` and `ValueSpec.toValue` — the document form.
-/

namespace ClusterMonitor

/-- A type tag of a schema. -/
inductive ValueType where
  | boolean
  | string
  | integer
  | number
  | array
  | object
deriving DecidableEq, Repr

namespace ValueType

/-- Does the value have this type? Integers are numbers too. -/
def accepts : ValueType → Value → Bool
  | .boolean, .bool _ => true
  | .string, .string _ => true
  | .integer, .int _ => true
  | .number, .int _ => true
  | .number, .float _ => true
  | .array, .array _ => true
  | .object, .object _ => true
  | _, _ => false

def text : ValueType → String
  | .boolean => "boolean"
  | .string => "string"
  | .integer => "integer"
  | .number => "number"
  | .array => "array"
  | .object => "object"

def isNumeric : ValueType → Bool
  | .integer => true
  | .number => true
  | _ => false

/-- Decodes a type tag from its name. -/
def decode : Node → Decoded ValueType :=
  Decode.choice <|
    [ValueType.boolean, .string, .integer, .number, .array, .object].map fun t => (t.text, t)

end ValueType

/-- Why a value does not have the type that is asked for. -/
structure TypeFault where
  expected : String
  actual : String
deriving DecidableEq, Repr

/-- Why a value of the right type is not allowed. -/
inductive RangeFault where
  | notListed (shown : String) (allowed : List String)
  | notFinite (number : Float)
  | belowMinimum (number minimum : Float)
  | aboveMaximum (number maximum : Float)
deriving Repr

/-- The wording of a refused value. -/
def RangeFault.message : RangeFault → String
  | .notListed shown allowed => s!"{shown} is not one of: " ++ ", ".intercalate allowed
  | .notFinite number => s!"{Decimal.Layout.message.write number} is not a finite number"
  | .belowMinimum number minimum =>
    s!"{Decimal.Layout.message.write number} is below the minimum " ++
      Decimal.Layout.message.write minimum
  | .aboveMaximum number maximum =>
    s!"{Decimal.Layout.message.write number} is above the maximum " ++
      Decimal.Layout.message.write maximum

/-- What an option's value may be. -/
structure ValueSpec where
  type : ValueType
  «example» : Option Value := none
  default : Option Value := none
  /-- The type of the items of an array. -/
  items : Option ValueSpec := none
  /-- The texts that a string may be; any if there are none. -/
  allowed : List String := []
  /-- Bounds of a number, both included. -/
  minimum : Option Float := none
  maximum : Option Float := none

namespace ValueSpec

/-- The specification with bounds on both sides. -/
def withRange (s : ValueSpec) (minimum maximum : Float) : ValueSpec :=
  { s with minimum := some minimum, maximum := some maximum }

/-- The specification with a default. -/
def withDefault (s : ValueSpec) (v : Value) : ValueSpec := { s with default := some v }

/-- The type as it is told to people, such as `list of strings`. -/
def label : ValueSpec → String
  | ⟨.array, _, _, some items, _, _, _⟩ => "list of " ++ items.label ++ "s"
  | ⟨.array, _, _, none, _, _, _⟩ => "list"
  | ⟨.object, _, _, _, _, _, _⟩ => "mapping"
  | ⟨type, _, _, _, _, _, _⟩ => type.text

/-- Has the value the declared type, and do the items of an array have theirs? -/
def checkType (s : ValueSpec) (v : Value) : Except TypeFault Unit :=
  if s.type.accepts v then
    match s.items, v with
    | some items, .array elements =>
      match elements.find? fun e => !items.type.accepts e with
      | some bad => .error ⟨s.type.text, "array containing " ++ bad.describe⟩
      | none => .ok ()
    | _, _ => .ok ()
  else .error ⟨s.type.text, v.describe⟩

/-- Does a number lie within the bounds? -/
def checkRange (s : ValueSpec) (number : Float) : Except RangeFault Unit :=
  if !number.isFinite then .error (.notFinite number)
  else
    match s.minimum.filter (number < ·) with
    | some minimum => .error (.belowMinimum number minimum)
    | none =>
      match s.maximum.filter (· < number) with
      | some maximum => .error (.aboveMaximum number maximum)
      | none => .ok ()

/-- Is the value one of the allowed texts? -/
def checkListed (s : ValueSpec) (v : Value) : Except RangeFault Unit :=
  if s.allowed.isEmpty then .ok ()
  else
    match v with
    | .string text =>
      if s.allowed.contains text then .ok () else .error (.notListed (Json.write v) s.allowed)
    | _ => .error (.notListed (Json.write v) s.allowed)

/-- Is the value among those that the specification allows? Numbers are held to the bounds of a
numeric specification, all else to the allowed texts. -/
def checkAllowed (s : ValueSpec) (v : Value) : Except RangeFault Unit :=
  match v.asFloat? with
  | some number => if s.type.isNumeric then s.checkRange number else s.checkListed v
  | none => s.checkListed v

/-- The document form; what is absent or empty is left out. -/
def toValue : ValueSpec → Value
  | ⟨type, shown, default, items, allowed, minimum, maximum⟩ =>
    .ofPairs <|
      [("type", Value.string type.text)] ++
      (shown.map fun v => ("example", v)).toList ++
      (default.map fun v => ("default", v)).toList ++
      (match items with
        | some items => [("items", items.toValue)]
        | none => []) ++
      (if allowed.isEmpty then [] else [("enum", .ofStrings allowed)]) ++
      (minimum.map fun x => ("minimum", Value.ofFloat x)).toList ++
      (maximum.map fun x => ("maximum", Value.ofFloat x)).toList

/-- The fields of a specification, given a decoder for the specification of its items. -/
def fields (itemSpec : Node → Decoded ValueSpec) : List (Decode.Field ValueSpec) :=
  [{ name := "type"
     write := fun s n => (ValueType.decode n).map fun x => { s with type := x } },
   { name := "example", optional := true
     write := fun s n =>
      (Decode.optional Decode.value n).map fun x => { s with «example» := x } },
   { name := "default", optional := true
     write := fun s n => (Decode.optional Decode.value n).map fun x => { s with default := x } },
   { name := "items", optional := true
     write := fun s n => (Decode.optional itemSpec n).map fun x => { s with items := x } },
   { name := "enum", optional := true
     write := fun s n =>
      (Decode.list Decode.text n).map fun x => { s with allowed := x } },
   { name := "minimum", optional := true
     write := fun s n => (Decode.optional Decode.float n).map fun x => { s with minimum := x } },
   { name := "maximum", optional := true
     write := fun s n => (Decode.optional Decode.float n).map fun x => { s with maximum := x } }]

/-- Decodes a specification whose items are nested less deep than `depth`. -/
def decodeWithin : Nat → Node → Decoded ValueSpec
  | 0, n => Decode.mismatch n "struct ValueSpec"
  | depth + 1, n =>
    Decode.record "struct ValueSpec" (fields (decodeWithin depth)) { type := .boolean } n

/-- Decodes a specification from its document form. -/
def decode (n : Node) : Decoded ValueSpec := decodeWithin (n.depth + 1) n

end ValueSpec

end ClusterMonitor

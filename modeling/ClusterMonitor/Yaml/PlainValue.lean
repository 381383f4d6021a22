import ClusterMonitor.Decimal.Read
import ClusterMonitor.Text.Number
import ClusterMonitor.Value

/-!
# Values of plain scalars

What a scalar without quotes stands for: nothing, a truth value, an integer in one of four bases, a
float, or else its own text. A number with a superfluous leading zero is a text.

* `integer?` — the integer that a text spells.
* `float?` — the float that a text spells.
* `plainValue?` — the value of a plain scalar; none for integers that are too large for a document.
-/

namespace ClusterMonitor.Yaml

def isNullText (text : String) : Bool := ["", "null", "Null", "NULL", "~"].contains text

def truth? (text : String) : Option Bool :=
  if ["true", "True", "TRUE"].contains text then some true
  else if ["false", "False", "FALSE"].contains text then some false
  else none

/-- Are there only digits, with a superfluous zero in front? -/
def hasLeadingZero (cs : List Char) : Bool :=
  let digits := match cs with
    | '-' :: rest => rest
    | '+' :: rest => rest
    | _ => cs
  decide (1 < digits.length) && digits.head? == some '0' && digits.all Char.isDigit

/-- The number that digits spell after the mark of their base, or in base ten. -/
def magnitude? (cs : List Char) : Option Nat :=
  let inBase (base : Nat) (digits : List Char) : Option Nat :=
    if digits.isEmpty then none else Text.numberInBase? base digits
  match cs with
  | '0' :: 'x' :: digits => inBase 16 digits
  | '0' :: 'o' :: digits => inBase 8 digits
  | '0' :: 'b' :: digits => inBase 2 digits
  | digits => inBase 10 digits

/-- The integer that a text spells. -/
def integer? (cs : List Char) : Option Int :=
  if hasLeadingZero cs then none
  else
    match cs with
    | '-' :: rest => (magnitude? rest).map fun n => -(n : Int)
    | '+' :: rest => (magnitude? rest).map fun n => (n : Int)
    | _ => (magnitude? cs).map fun n => (n : Int)

/-- The float that a text spells, the infinities and the undefined one included. What is too large
for a float is none. -/
def float? (text : String) : Option Float :=
  if [".inf", ".Inf", ".INF", "+.inf", "+.Inf", "+.INF"].contains text then some (1.0 / 0.0)
  else if ["-.inf", "-.Inf", "-.INF"].contains text then some (-1.0 / 0.0)
  else if [".nan", ".NaN", ".NAN"].contains text then some (0.0 / 0.0)
  else (Decimal.floatOfText? text.toList).filter Float.isFinite

/-- How an integer that a text spells can be used. -/
inductive IntegerFit where
  /-- As an integer of a document. -/
  | fits (n : Int)
  /-- Not at all. -/
  | tooLarge
  /-- Only as a float. -/
  | huge
deriving DecidableEq, Repr

/-- Documents have integers of 64 bits. Up to 128 bits an integer is recognized and cannot be used;
beyond, the text is no integer. -/
def fitOf (n : Int) : IntegerFit :=
  if -(Nat.pow 2 63 : Int) ≤ n ∧ n < Nat.pow 2 64 then .fits n
  else if -(Nat.pow 2 127 : Int) ≤ n ∧ n < Nat.pow 2 128 then .tooLarge
  else .huge

/-- The float that a text without a superfluous zero spells, else the text itself. -/
def floatOrText (text : String) : Value :=
  if hasLeadingZero text.toList then .string text
  else
    match float? text with
    | some x => .float x
    | none => .string text

/-- The value of a plain scalar. -/
def plainValue? (text : String) : Option Value :=
  if isNullText text then some .null
  else
    match truth? text, (integer? text.toList).map fitOf with
    | some b, _ => some (.bool b)
    | none, some (.fits n) => some (.int n)
    | none, some .tooLarge => none
    | none, _ => some (floatOrText text)

/-- The names of the kinds of values in tags. -/
def coreTag (name : String) : String := "tag:yaml.org,2002:" ++ name

/-- The name in a tag of the document's own, one that starts with an exclamation mark. -/
def localName? (tag : String) : Option String :=
  match tag.toList with
  | '!' :: name => some (String.ofList name)
  | _ => none

/-- The value of a scalar with a standard tag; none if the text does not spell a value of that kind.
Tags that are not known make it a text. -/
def taggedValue? (tag text : String) : Option Value :=
  if tag = coreTag "bool" then (truth? text).map .bool
  else if tag = coreTag "int" then
    match (integer? text.toList).map fitOf with
    | some (.fits n) => some (.int n)
    | _ => none
  else if tag = coreTag "float" then (float? text).map .float
  else if tag = coreTag "null" then if !text.isEmpty && isNullText text then some .null else none
  else some (.string text)

end ClusterMonitor.Yaml

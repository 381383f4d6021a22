import ClusterMonitor.Dict

/-!
# Document values

The dynamic values that configuration documents are made of. Integers and floats are different
kinds: `1` is an integer and `1.0` is not.

* `Value` — the values; objects keep their members in the order of the keys.
* `Value.describe` — the name that messages give to the kind of a value.
* `Value.get?`, `Value.asString?`, … — views of a value as one kind.
* `Value.WellFormed` — the members of every object inside are ordered by key.
-/

namespace ClusterMonitor

/-- A document value. -/
inductive Value where
  | null
  | bool (b : Bool)
  | int (n : Int)
  | float (x : Float)
  | string (s : String)
  | array (items : List Value)
  | object (members : List (String × Value))
deriving Inhabited

namespace Value

mutual

/-- Equality of values. Two floats are equal when their bits are, except that the two zeros are
equal to each other. -/
def same : Value → Value → Bool
  | .null, .null => true
  | .bool a, .bool b => a == b
  | .int a, .int b => a == b
  | .float a, .float b => a == b
  | .string a, .string b => a == b
  | .array a, .array b => sameItems a b
  | .object a, .object b => sameMembers a b
  | _, _ => false

/-- Equality of lists of values, item by item. -/
def sameItems : List Value → List Value → Bool
  | [], [] => true
  | a :: as, b :: bs => same a b && sameItems as bs
  | _, _ => false

/-- Equality of lists of members, member by member. -/
def sameMembers : List (String × Value) → List (String × Value) → Bool
  | [], [] => true
  | (k, a) :: as, (l, b) :: bs => k == l && same a b && sameMembers as bs
  | _, _ => false

end

instance : BEq Value := ⟨same⟩

/-- The kind of a value, as messages name it. -/
def describe : Value → String
  | .null => "null"
  | .bool _ => "boolean"
  | .int _ => "integer"
  | .float _ => "number"
  | .string _ => "string"
  | .array _ => "array"
  | .object _ => "object"

/-- A float as a value. Documents have no infinities and no NaN: these become `null`. -/
def ofFloat (x : Float) : Value := if x.isFinite then .float x else .null

/-- A list of texts as a value. -/
def ofStrings (texts : List String) : Value := .array (texts.map .string)

def isNull : Value → Bool
  | .null => true
  | _ => false

def asBool? : Value → Option Bool
  | .bool b => some b
  | _ => none

def asString? : Value → Option String
  | .string s => some s
  | _ => none

def asArray? : Value → Option (List Value)
  | .array items => some items
  | _ => none

def asObject? : Value → Option (Dict Value)
  | .object members => some members
  | _ => none

/-- A number of either kind as a float; integers are rounded to the nearest one. -/
def asFloat? : Value → Option Float
  | .int n => some (Float.ofInt n)
  | .float x => some x
  | _ => none

/-- The member of an object; nothing for any other value. -/
def get? : Value → String → Option Value
  | .object members, key => Dict.get? members key
  | _, _ => none

/-- The member of an object, where `null` counts as absent. -/
def given? (members : Dict Value) (key : String) : Option Value :=
  (Dict.get? members key).filter fun v => !v.isNull

/-- An object from pairs in any order. -/
def ofPairs (pairs : List (String × Value)) : Value := .object (Dict.ofPairs pairs)

mutual

/-- The members of every object inside the value are ordered by key. -/
def WellFormed : Value → Prop
  | .array items => WellFormedItems items
  | .object members => Dict.Ordered members ∧ WellFormedMembers members
  | _ => True

/-- Every item is well-formed. -/
def WellFormedItems : List Value → Prop
  | [] => True
  | v :: rest => WellFormed v ∧ WellFormedItems rest

/-- Every member is well-formed. -/
def WellFormedMembers : List (String × Value) → Prop
  | [] => True
  | (_, v) :: rest => WellFormed v ∧ WellFormedMembers rest

end

end Value

end ClusterMonitor

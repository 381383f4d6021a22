import ClusterMonitor.Value

/-!
# Document nodes

What a reader of a document format delivers, before it is known what each part is for. Formats
differ in how firm the type of a scalar is: a JSON string is a string and nothing else, while the
YAML scalar `12` is an integer where any value may stand, and the text `12` where a text is asked
for. So a scalar carries its value and, where the format lets scalars stand for texts, the text it
was written with.

* `Node.ofValue` — a value as a node with firm types.
* `Node.value?` — a node as a value; the last of several members with one key wins.
* `Node.tagsAsMembers` — the node with every tag turned into the only member of a mapping.
-/

namespace ClusterMonitor

/-- A node of a document. -/
inductive Node where
  /-- A scalar with its value and, where it can stand for a text, its text. -/
  | scalar (value : Value) (text : Option String)
  /-- A scalar that stands for no value, such as an integer that is too large. -/
  | unreadable (text : Option String)
  /-- Content under a tag of the document's own. No value has such tags. -/
  | tagged (tag : String) (content : Node)
  | sequence (items : List Node)
  | mapping (members : List (String × Node))
deriving Inhabited

namespace Node

mutual

/-- A value as a node. -/
def ofValue : Value → Node
  | .array items => .sequence (ofItems items)
  | .object members => .mapping (ofMembers members)
  | .null => .scalar .null none
  | .bool b => .scalar (.bool b) none
  | .int n => .scalar (.int n) none
  | .float x => .scalar (.float x) none
  | .string s => .scalar (.string s) none

/-- Items as nodes. -/
def ofItems : List Value → List Node
  | [] => []
  | v :: rest => ofValue v :: ofItems rest

/-- Members as nodes. -/
def ofMembers : List (String × Value) → List (String × Node)
  | [] => []
  | (k, v) :: rest => (k, ofValue v) :: ofMembers rest

end

/-- The value of a scalar; floats without a place on the number line become `null`. -/
def scalarValue : Value → Value
  | .float x => Value.ofFloat x
  | v => v

mutual

/-- A node as a value. -/
def value? : Node → Option Value
  | .scalar v _ => some (scalarValue v)
  | .unreadable _ => none
  | .tagged _ _ => none
  | .sequence items => (itemValues? items).map .array
  | .mapping members => (memberValues? [] members).map .object

/-- Items as values. -/
def itemValues? : List Node → Option (List Value)
  | [] => some []
  | n :: rest =>
    match value? n, itemValues? rest with
    | some v, some vs => some (v :: vs)
    | _, _ => none

/-- Members as values, written one after another. -/
def memberValues? (written : Dict Value) : List (String × Node) → Option (Dict Value)
  | [] => some written
  | (k, n) :: rest =>
    match value? n with
    | some v => memberValues? (Dict.set written k v) rest
    | none => none

end

mutual

/-- The node with every tag turned into a mapping from it to what it marks. -/
def tagsAsMembers : Node → Node
  | .scalar v text => .scalar v text
  | .unreadable text => .unreadable text
  | .tagged tag content => .mapping [(tag, tagsAsMembers content)]
  | .sequence items => .sequence (itemTagsAsMembers items)
  | .mapping members => .mapping (memberTagsAsMembers members)

/-- Items without tags. -/
def itemTagsAsMembers : List Node → List Node
  | [] => []
  | n :: rest => tagsAsMembers n :: itemTagsAsMembers rest

/-- Members without tags. -/
def memberTagsAsMembers : List (String × Node) → List (String × Node)
  | [] => []
  | (k, n) :: rest => (k, tagsAsMembers n) :: memberTagsAsMembers rest

end

mutual

/-- The node without the texts of its scalars, so that each has only its value. -/
def firm : Node → Node
  | .scalar v _ => .scalar v none
  | .unreadable _ => .unreadable none
  | .tagged tag content => .tagged tag (firm content)
  | .sequence items => .sequence (firmItems items)
  | .mapping members => .mapping (firmMembers members)

/-- Items without texts. -/
def firmItems : List Node → List Node
  | [] => []
  | n :: rest => firm n :: firmItems rest

/-- Members without texts. -/
def firmMembers : List (String × Node) → List (String × Node)
  | [] => []
  | (k, n) :: rest => (k, firm n) :: firmMembers rest

end

mutual

/-- How many levels of sequences and mappings lie inside the node. -/
def depth : Node → Nat
  | .scalar _ _ => 0
  | .unreadable _ => 0
  | .tagged _ content => depth content
  | .sequence items => depthOfItems items + 1
  | .mapping members => depthOfMembers members + 1

/-- The largest depth among items. -/
def depthOfItems : List Node → Nat
  | [] => 0
  | n :: rest => max (depth n) (depthOfItems rest)

/-- The largest depth among members. -/
def depthOfMembers : List (String × Node) → Nat
  | [] => 0
  | (_, n) :: rest => max (depth n) (depthOfMembers rest)

end

/-- What stands under the tag of a node, if it has one. -/
def bare : Node → Node
  | .tagged _ content => content
  | n => n

/-- Is the node an empty scalar or `null`? -/
def isNull : Node → Bool
  | .scalar .null _ => true
  | _ => false

end Node

end ClusterMonitor

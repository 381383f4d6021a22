import ClusterMonitor.Decimal.Read
import ClusterMonitor.Decimal.Written
import ClusterMonitor.Decode.Node
import ClusterMonitor.Text.Quoted

/-!
# Decoding nodes

Turns nodes into the types of the domain, with an exact account of what was wrong.

* `DecodeError` — the causes of failure; `DecodeError.message` words them.
* `Decode.text`, `Decode.flag`, `Decode.natural`, … — decoders of scalars.
* `Decode.record` — decodes a record from a mapping, or from a sequence of its fields in order.
  Unknown members are ignored; of several faults the one whose member comes first is reported, and
  missing fields only after all members have been decoded.
* `Decode.choice` and `Decode.tagged` — decode a choice by its name, and a record whose kind is
  named by one of its members.
-/

namespace ClusterMonitor

/-- Why a node does not have the shape that was asked for. -/
inductive DecodeError where
  | wrongType (found expected : String)
  | wrongValue (found expected : String)
  | wrongLength (length : Nat) (expected : String)
  | unknownVariant (name : String) (known : List String)
  | missingField (name : String)
  | duplicateField (name : String)
  | unreadable
  | other (message : String)
deriving DecidableEq, Repr

namespace DecodeError

/-- Names in backquotes, joined for reading. -/
def listed : List String → String
  | [a] => s!"`{a}`"
  | [a, b] => s!"`{a}` or `{b}`"
  | names => "one of " ++ ", ".intercalate (names.map fun n => s!"`{n}`")

/-- The wording of a decoding error. -/
def message : DecodeError → String
  | .wrongType found expected => s!"invalid type: {found}, expected {expected}"
  | .wrongValue found expected => s!"invalid value: {found}, expected {expected}"
  | .wrongLength length expected => s!"invalid length {length}, expected {expected}"
  | .unknownVariant name known => s!"unknown variant `{name}`, expected {listed known}"
  | .missingField name => s!"missing field `{name}`"
  | .duplicateField name => s!"duplicate field `{name}`"
  | .unreadable => "a scalar without a value"
  | .other text => text

end DecodeError

/-- A decoded value, or why there is none. -/
abbrev Decoded (α : Type) := Except DecodeError α

namespace Decode

/-- How a scalar is shown in messages. -/
def shownScalar : Value → String
  | .null => "null"
  | .bool b => s!"boolean `{b}`"
  | .int n => s!"integer `{n}`"
  | .float x => s!"floating point `{Decimal.Layout.json.write x}`"
  | .string s => s!"string {Text.quoted s}"
  | .array _ => "sequence"
  | .object _ => "map"

/-- How a node is shown in messages. -/
def shown : Node → String
  | .scalar v _ => shownScalar v
  | .unreadable _ => "a scalar without a value"
  | .tagged _ _ => "enum"
  | .sequence _ => "sequence"
  | .mapping _ => "map"

/-- The failure to find what was expected. -/
def mismatch {α : Type} (n : Node) (expected : String) : Decoded α :=
  .error (.wrongType (shown n) expected)

/-- A text: a string, or any scalar where the format lets it stand for its text. -/
def text (n : Node) : Decoded String :=
  match n.bare with
  | .scalar _ (some t) => .ok t
  | .unreadable (some t) => .ok t
  | .scalar (.string s) none => .ok s
  | n => mismatch n "a string"

def flag (n : Node) : Decoded Bool :=
  match n.bare with
  | .scalar (.bool b) _ => .ok b
  | n => mismatch n "a boolean"

/-- Any value. -/
def value (n : Node) : Decoded Value :=
  match n.value? with
  | some v => .ok v
  | none => .error .unreadable

/-- An integer between two bounds. -/
def integer (low high : Int) (expected : String) (n : Node) : Decoded Int :=
  match n.bare with
  | .scalar (.int n) t =>
    if low ≤ n ∧ n ≤ high then .ok n
    else .error (.wrongValue (shown (.scalar (.int n) t)) expected)
  | n => mismatch n expected

/-- A number as a float. Where a scalar stands for its text, the text is read anew. -/
def float (n : Node) : Decoded Float :=
  match n.bare with
  | .scalar (.float x) _ => .ok x
  | .scalar (.int n) none => .ok (Float.ofInt n)
  | .scalar v (some t) =>
    match (Decimal.floatOfText? t.toList).filter Float.isFinite with
    | some x => .ok x
    | none => mismatch (.scalar v (some t)) "f64"
  | n => mismatch n "f64"

/-- Nothing for `null`, else what the decoder gives. -/
def optional {α : Type} (d : Node → Decoded α) (n : Node) : Decoded (Option α) :=
  if n.isNull then .ok none else (d n).map some

/-- A list of items. An empty scalar of a text format is an empty list. -/
def list {α : Type} (d : Node → Decoded α) (n : Node) : Decoded (List α) :=
  match n.bare with
  | .sequence items => items.mapM d
  | .scalar .null (some "") => .ok []
  | n => mismatch n "a sequence"

/-- A count of elements, worded for a record type. -/
def elements (n : Nat) : String := if n = 1 then "1 element" else s!"{n} elements"

/-- One field of a record that is collected in a `σ`: its name, how its node is written into the
record, and whether a record may do without it. -/
structure Field (σ : Type) where
  name : String
  write : σ → Node → Decoded σ
  optional : Bool := false

/-- Writes the members of a mapping into a record, the ones with known names. -/
def fromMembers {σ : Type} (fields : List (Field σ)) :
    σ → List String → List (String × Node) → Decoded (σ × List String)
  | s, seen, [] => .ok (s, seen)
  | s, seen, (k, n) :: rest =>
    match fields.find? (·.name == k) with
    | none => fromMembers fields s seen rest
    | some f =>
      if seen.contains k then .error (.duplicateField k)
      else
        match f.write s n with
        | .ok s => fromMembers fields s (k :: seen) rest
        | .error e => .error e

/-- Writes the items of a sequence into a record, in the order of its fields, and gives the items
that are left over. -/
def fromItems {σ : Type} (shape : String) (total : Nat) :
    List (Field σ) → Nat → Bool → σ → List Node → Decoded (σ × List Node)
  | [], _, _, s, items => .ok (s, items)
  | f :: fields, index, defaults, s, [] =>
    if f.optional && defaults then fromItems shape total fields (index + 1) defaults s []
    else .error (.wrongLength index s!"{shape} with {elements total}")
  | f :: fields, index, defaults, s, n :: items =>
    match f.write s n with
    | .ok s => fromItems shape total fields (index + 1) defaults s items
    | .error e => .error e

/-- The first field that a mapping must have and does not. -/
def missing? {σ : Type} (fields : List (Field σ)) (seen : List String) : Option String :=
  (fields.find? fun f => !f.optional && !seen.contains f.name).map (·.name)

/-- A record from a mapping. -/
def ofMapping {σ : Type} (fields : List (Field σ)) (start : σ) (members : List (String × Node)) :
    Decoded σ :=
  match fromMembers fields start [] members with
  | .error e => .error e
  | .ok (s, seen) =>
    match missing? fields seen with
    | some name => .error (.missingField name)
    | none => .ok s

/-- A record from a sequence of its fields. `surplus` words the failure of a sequence that is too
long, given its length and the number of items used. -/
def ofSequence {σ : Type} (shape : String) (surplus : Nat → Nat → DecodeError) (defaults : Bool)
    (fields : List (Field σ)) (start : σ) (items : List Node) : Decoded σ :=
  match fromItems shape fields.length fields 0 defaults start items with
  | .error e => .error e
  | .ok (s, []) => .ok s
  | .ok (_, _ :: _) => .error (surplus items.length fields.length)

/-- A sequence with more items than a record has fields. -/
def surplusItems (length _ : Nat) : DecodeError :=
  .wrongLength length "fewer elements in array"

/-- A record. `shape` names its type in messages. -/
def record {σ : Type} (shape : String) (fields : List (Field σ)) (start : σ) (n : Node) :
    Decoded σ :=
  match n.bare with
  | .mapping members => ofMapping fields start members
  | .sequence items => ofSequence shape surplusItems true fields start items
  | .scalar .null (some "") => ofMapping fields start []
  | n => mismatch n shape

/-- A choice among names. The name may also be the tag of a node without content, or the only key of
a firm mapping to `null`. -/
def choice {α : Type} (known : List (String × α)) (n : Node) : Decoded α :=
  let named (name : String) : Decoded α :=
    match known.lookup name with
    | some a => .ok a
    | none => .error (.unknownVariant name (known.map Prod.fst))
  match n with
  | .scalar _ (some t) => named t
  | .scalar (.string s) none => named s
  | .tagged name content =>
    match named name with
    | .error e => .error e
    | .ok a => if content.isNull then .ok a else mismatch content "unit"
  | .mapping [(name, content)] =>
    match named name with
    | .error e => .error e
    | .ok a =>
      match content with
      | .scalar .null none => .ok a
      | n => mismatch n "unit"
  | .mapping _ => .error (.wrongValue "map" "map with a single key")
  | n => mismatch n "string or map"

/-- The name of a kind, in a member or in the first item. -/
def kindName {α : Type} (known : List (String × α)) : Node → Decoded α
  | .scalar (.string s) _ =>
    match known.lookup s with
    | some a => .ok a
    | none => .error (.unknownVariant s (known.map Prod.fst))
  | n => mismatch n "variant identifier"

/-- The kind among the members, and the other members. -/
def splitKind {α : Type} (tag : String) (known : List (String × α)) :
    Option α → List (String × Node) → List (String × Node) →
      Decoded (Option α × List (String × Node))
  | kind, others, [] => .ok (kind, others.reverse)
  | kind, others, (k, n) :: rest =>
    if k = tag then
      match kind with
      | some _ => .error (.duplicateField tag)
      | none =>
        match kindName known n with
        | .ok a => splitKind tag known (some a) others rest
        | .error e => .error e
    else splitKind tag known kind ((k, n) :: others) rest

/-- A sequence with items that the kind has no field for. -/
def surplusContent (length used : Nat) : DecodeError :=
  .wrongLength length s!"{elements used} in sequence"

/-- A record of one of several kinds, named by a member (or by the first item of a sequence). `body`
gives, for each kind, the name of its shape, its fields and what they are written into. -/
def tagged {α σ : Type} (shape tag : String) (known : List (String × α))
    (body : α → String × List (Field σ) × σ) (n : Node) : Decoded σ :=
  match n.firm with
  | .mapping members =>
    match splitKind tag known none [] members with
    | .error e => .error e
    | .ok (none, _) => .error (.missingField tag)
    | .ok (some a, others) =>
      let (_, fields, start) := body a
      ofMapping fields start others
  | .sequence [] => .error (.missingField tag)
  | .sequence (first :: items) =>
    match kindName known first with
    | .error e => .error e
    | .ok a =>
      let (shape, fields, start) := body a
      ofSequence shape surplusContent false fields start items
  | n => mismatch n shape

end Decode

end ClusterMonitor

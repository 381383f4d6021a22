import ClusterMonitor.Regex.Tree
import ClusterMonitor.Unicode.CaseFolding
import ClusterMonitor.Unicode.Category
import ClusterMonitor.Unicode.Property
import ClusterMonitor.Unicode.Script
import ClusterMonitor.Unicode.Word

/-!
# The characters of a class

`ClassTree.charSet?` gives the set of characters that a bracket stands for. In the Unicode mode
classes are those of all scripts; otherwise they are ASCII classes, and a class that would reach
beyond ASCII is refused, since half of a character cannot be matched.
-/

namespace ClusterMonitor.Regex

open Unicode (CharSet)

/-- The modes that matter for classes. -/
structure ClassMode where
  unicode : Bool
  caseInsensitive : Bool

/-- A class name in lower case, without blanks, hyphens, underscores and a leading `is`. -/
def plainName (name : String) : String :=
  let cs := name.toList
  let startsWithIs := match cs with
    | a :: b :: _ => (a == 'i' || a == 'I') && (b == 's' || b == 'S')
    | _ => false
  let kept := (if startsWithIs then cs.drop 2 else cs).filterMap fun c =>
    if c = ' ' ∨ c = '_' ∨ c = '-' ∨ 0x80 ≤ c.toNat then none else some c.toLower
  if startsWithIs && kept == ['c'] then "isc" else String.ofList kept

/-- The entry of a table under a name. -/
def tableLines? (table : List (List String × List String)) (name : String) : Option (List String) :=
  table.findSome? fun (names, lines) => if names.contains name then some lines else none

/-- The characters of a general category, of a group of them, or of one of the three catch-alls. -/
def categorySet? (name : String) : Option CharSet :=
  if name = "any" then some CharSet.all
  else if name = "ascii" then some (.ofRange 0 0x7F)
  else if name = "assigned" then
    (tableLines? Unicode.Category.table "cn").map fun lines => (CharSet.ofHex lines).negate
  else
    match tableLines? Unicode.Category.table name with
    | some lines => some (.ofHex lines)
    | none =>
      (tableLines? Unicode.Category.groups name).map fun members =>
        members.foldl
          (fun s m =>
            s.union (.ofHex ((tableLines? Unicode.Category.table m).getD []))) CharSet.empty

/-- The characters of a script. -/
def scriptSet? (name : String) : Option CharSet :=
  (tableLines? Unicode.Script.table name).map CharSet.ofHex

/-- The characters used with a script. -/
def scriptExtensionSet? (name : String) : Option CharSet :=
  match tableLines? Unicode.Script.extensions name with
  | some lines => some (.ofHex lines)
  | none => scriptSet? name

/-- The characters that a name alone stands for: a property, a category or a script. -/
def namedSet? (name : String) : Option CharSet :=
  let property :=
    if name = "cf" ∨ name = "sc" ∨ name = "lc" then none
    else (tableLines? Unicode.Property.table name).map CharSet.ofHex
  property <|> categorySet? name <|> scriptSet? name

/-- The characters of a property class, before negation. -/
def PropertyClass.charSet? (p : PropertyClass) : Option CharSet :=
  let name := plainName p.name
  match p.property.map plainName with
  | none => namedSet? name
  | some property =>
    if property = "gc" ∨ property = "generalcategory" then categorySet? name
    else if property = "sc" ∨ property = "script" then scriptSet? name
    else if property = "scx" ∨ property = "scriptextensions" then scriptExtensionSet? name
    else none

/-- The characters of a class with a one-letter name, before negation. -/
def LetterClass.charSet (unicode : Bool) : LetterClass → CharSet
  | .digit => if unicode then Unicode.digitSet else .ofRange 0x30 0x39
  | .blank => if unicode then Unicode.blankSet else .ofRanges [(0x9, 0xD), (0x20, 0x20)]
  | .word =>
    if unicode then Unicode.wordSet
    else .ofRanges [(0x30, 0x39), (0x41, 0x5A), (0x5F, 0x5F), (0x61, 0x7A)]

/-- The characters of an ASCII class. -/
def asciiClassSet (name : String) : CharSet :=
  match name with
  | "alnum" => .ofRanges [(0x30, 0x39), (0x41, 0x5A), (0x61, 0x7A)]
  | "alpha" => .ofRanges [(0x41, 0x5A), (0x61, 0x7A)]
  | "ascii" => .ofRange 0 0x7F
  | "blank" => .ofRanges [(0x9, 0x9), (0x20, 0x20)]
  | "cntrl" => .ofRanges [(0, 0x1F), (0x7F, 0x7F)]
  | "digit" => .ofRange 0x30 0x39
  | "graph" => .ofRange 0x21 0x7E
  | "lower" => .ofRange 0x61 0x7A
  | "print" => .ofRange 0x20 0x7E
  | "punct" => .ofRanges [(0x21, 0x2F), (0x3A, 0x40), (0x5B, 0x60), (0x7B, 0x7E)]
  | "space" => .ofRanges [(0x9, 0xD), (0x20, 0x20)]
  | "upper" => .ofRange 0x41 0x5A
  | "word" => .ofRanges [(0x30, 0x39), (0x41, 0x5A), (0x5F, 0x5F), (0x61, 0x7A)]
  | "xdigit" => .ofRanges [(0x30, 0x39), (0x41, 0x46), (0x61, 0x66)]
  | _ => .empty

/-- A set, or everything else. -/
def negateIf (negated : Bool) (s : CharSet) : CharSet := if negated then s.negate else s

/-- Adds the other case where case does not matter. -/
def ClassMode.fold (m : ClassMode) (s : CharSet) : CharSet :=
  if m.caseInsensitive then (if m.unicode then s.foldCase else s.foldAsciiCase) else s

/-- The code of a literal inside a bracket. -/
def ClassMode.codeOf? (m : ClassMode) (l : Literal) : Option Nat :=
  if m.unicode then some l.char.toNat
  else
    match l.byte with
    | some byte => some byte
    | none => if l.char.toNat < 0x80 then some l.char.toNat else none

/-- The characters of a property class. -/
def ClassMode.propertySet? (m : ClassMode) (p : PropertyClass) : Option CharSet :=
  if m.unicode then p.charSet?.map fun s => negateIf p.negated (m.fold s) else none

mutual

/-- The characters that the inside of a bracket stands for. -/
def ClassTree.charSet? (m : ClassMode) : ClassTree → Option CharSet
  | .nothing => some .empty
  | .literal l => (m.codeOf? l).map fun c => .ofRange c c
  | .range low high =>
    match m.codeOf? low, m.codeOf? high with
    | some a, some b => some (.ofRange a b)
    | _, _ => none
  | .ascii name negated => some (negateIf negated (asciiClassSet name))
  | .letter kind negated => some (negateIf negated (kind.charSet m.unicode))
  | .property p => m.propertySet? p
  | .bracketed negated t => (t.charSet? m).map fun s => negateIf negated (m.fold s)
  | .union items => ClassTree.charSetOfItems? m items
  | .operation op left right =>
    match left.charSet? m, right.charSet? m with
    | some a, some b =>
      let a := m.fold a
      let b := m.fold b
      some (match op with
        | .intersection => a.inter b
        | .difference => a.diff b
        | .symmetricDifference => a.symmDiff b)
    | _, _ => none

/-- The characters of all the items. -/
def ClassTree.charSetOfItems? (m : ClassMode) : List ClassTree → Option CharSet
  | [] => some .empty
  | t :: rest =>
    match t.charSet? m, ClassTree.charSetOfItems? m rest with
    | some a, some b => some (a.union b)
    | _, _ => none

end

/-- Keeps a class only if it does not split characters: outside of the Unicode mode it must be an
ASCII class. -/
def ClassMode.whole? (m : ClassMode) (s : CharSet) : Option CharSet :=
  if m.unicode || s.isAscii then some s else none

end ClusterMonitor.Regex

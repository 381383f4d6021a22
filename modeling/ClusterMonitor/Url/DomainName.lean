import ClusterMonitor.Unicode.Category
import ClusterMonitor.Unicode.Composition
import ClusterMonitor.Unicode.Direction
import ClusterMonitor.Unicode.HostMapping
import ClusterMonitor.Url.Punycode

/-!
# Domain names

The ASCII form of a domain name. Characters are unified first; then each label is checked, and a
label with other than ASCII characters is written in Punycode.

* `unify?` — the unified form of a name, if it has no character that may not occur.
* `labelOf?` — a label with its plain form; `isSoundText` and `isDirected` are what it is held to.
* `toAscii?` — the ASCII form of a name.
-/

namespace ClusterMonitor.DomainName

open ClusterMonitor.Unicode

/-- The ASCII characters that no name may hold: what would end or divide a host, and all that is not
seen. -/
def isForbidden (c : Char) : Bool :=
  c.toNat ≤ 0x20 || c.toNat == 0x7F || "%#/:<>?@[\\]^|".toList.contains c

/-- What a character is unified to; nothing if it may not occur. -/
def unifyChar? (c : Char) : Option (List Char) :=
  if c.toNat < 0x80 then some [c.toLower]
  else if HostMapping.validSet.contains c then some [c]
  else if HostMapping.ignoredSet.contains c then some []
  else HostMapping.replacements.get? c

/-- The unified form of a name. -/
def unify? (cs : List Char) : Option (List Char) := do
  let mapped ← cs.mapM unifyChar?
  let unified := compose mapped.flatten
  if unified.any isForbidden then none else return unified

/-- The longest label that is written in Punycode. -/
def longestEncoded : Nat := 1000

/-- The marks that begin an encoded label. -/
def encodedMark : List Char := ['x', 'n', '-', '-']

/-- A label: what is written, and what it stands for. -/
structure Label where
  written : List Char
  plain : List Char
deriving DecidableEq, Repr

/-- Does a joiner between these characters have an effect? `before` is given in reverse. -/
def joins (before after : List Char) : Bool :=
  let left := (before.dropWhile transparentSet.contains).head?
  let right := (after.dropWhile transparentSet.contains).head?
  (left.any fun c => leftJoiningSet.contains c || dualJoiningSet.contains c) &&
    (right.any fun c => rightJoiningSet.contains c || dualJoiningSet.contains c)

/-- Do all invisible joiners and non-joiners stand where they have an effect? `before` holds the
characters passed, the newest first. -/
def joinersFit (before : List Char) : List Char → Bool
  | [] => true
  | c :: cs =>
    let afterKiller := before.head?.any vowelKillerSet.contains
    let fits :=
      if c = '\u200C' then afterKiller || joins before cs
      else if c = '\u200D' then afterKiller
      else true
    fits && joinersFit (c :: before) cs

/-- Is the plain form of a label with other than ASCII characters in order? -/
def isSoundText (cs : List Char) : Bool :=
  !(cs.head?.any Category.markSet.contains) && joinersFit [] cs

/-- The label that a part of a unified name writes. -/
def labelOf? (cs : List Char) : Option Label :=
  if encodedMark.isPrefixOf cs then do
    if cs.any fun c => 0x80 ≤ c.toNat then none
    let plain ← Punycode.decode? (cs.drop encodedMark.length)
    if plain.all (fun c => c.toNat < 0x80) then none
    if plain.any fun c => unifyChar? c != some [c] then none
    if plain.any isForbidden || compose plain != plain then none
    if isSoundText plain then return ⟨cs, plain⟩ else none
  else if cs.all fun c => c.toNat < 0x80 then some ⟨cs, cs⟩
  else if cs.length ≤ longestEncoded ∧ isSoundText cs then
    some ⟨encodedMark ++ Punycode.encode cs, cs⟩
  else none

/-- Is the character written from right to left? -/
def turns (c : Char) : Bool := rightToLeftSet.contains c || arabicNumberSet.contains c

/-- May the character stand in a label of either direction? -/
def isDirectionless (c : Char) : Bool :=
  europeanNumberSet.contains c || neutralSet.contains c || directionlessMarkSet.contains c

/-- Can the direction of the label be told, wherever it stands in a name with both directions? -/
def isDirected (plain : List Char) : Bool :=
  let last := (plain.reverse.dropWhile directionlessMarkSet.contains).head?
  match plain.head? with
  | none => true
  | some first =>
    if rightToLeftSet.contains first then
      plain.all (fun c => turns c || isDirectionless c) &&
        (last.any fun c => turns c || europeanNumberSet.contains c) &&
        !(plain.any europeanNumberSet.contains && plain.any arabicNumberSet.contains)
    else
      !(turns first || isDirectionless first) && plain.all (fun c => !turns c) &&
        (last.any fun c =>
          europeanNumberSet.contains c || !(isDirectionless c))

/-- The parts of a name between dots. `current` holds the part under way, the newest first. -/
def splitDots (current : List Char) : List Char → List (List Char)
  | [] => [current.reverse]
  | c :: cs => if c = '.' then current.reverse :: splitDots [] cs else splitDots (c :: current) cs

/-- The ASCII form of a name. -/
def toAscii? (cs : List Char) : Option (List Char) := do
  let unified ← unify? cs
  let labels ← (splitDots [] unified).mapM labelOf?
  if labels.any (fun l => l.plain.any turns) && !labels.all fun l => isDirected l.plain then none
  return List.intercalate ['.'] (labels.map Label.written)

end ClusterMonitor.DomainName

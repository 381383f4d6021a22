import ClusterMonitor.Regex.Tree
import ClusterMonitor.Unicode.Word
import ClusterMonitor.Decimal.Read

/-!
# Reading patterns

`Tree.ofText?` reads a pattern text. Every reader takes the characters that are left and gives what
it has read with the characters that follow, or nothing when the text is not a pattern. With
`blanks` set, blanks and comments between tokens are skipped.

The main loop `readItems?` reads up to a closing parenthesis that it does not own, or to the end of
the text; groups are read by the same loop between their parentheses.
-/

namespace ClusterMonitor.Regex

/-- What has been counted so far: groups, and the names given to them. -/
structure GroupCount where
  groups : Nat := 0
  names : List (String × Nat) := []

/-- Drops blanks and comments. -/
def dropBlanks (inComment : Bool) : List Char → List Char
  | [] => []
  | c :: rest =>
    if inComment then dropBlanks (c != '\n') rest
    else if Unicode.isBlank c then dropBlanks false rest
    else if c = '#' then dropBlanks true rest
    else c :: rest

/-- Drops blanks and comments where these are ignored. -/
def skip (blanks : Bool) (cs : List Char) : List Char :=
  if blanks then dropBlanks false cs else cs

/-- Characters with a meaning of their own in patterns. -/
def isMeta (c : Char) : Bool :=
  "\\.+*?()|[]\x7b\x7d^$#&-~".toList.contains c

/-- May a backslash stand before the character to mean just the character? -/
def isEscapable (c : Char) : Bool :=
  isMeta c || (c.toNat < 0x80 && !c.isAlphanum && c != '<' && c != '>')

def hexValue? (c : Char) : Option Nat :=
  if c.isDigit then some (c.toNat - 48)
  else if 'a' ≤ c ∧ c ≤ 'f' then some (c.toNat - 87)
  else if 'A' ≤ c ∧ c ≤ 'F' then some (c.toNat - 55)
  else none

/-- The character with a code point; surrogates and codes beyond the last are none. -/
def charOfCode? (n : Nat) : Option Char :=
  if n < 0xD800 ∨ (0xE000 ≤ n ∧ n ≤ 0x10FFFF) then some (Char.ofNat n) else none

/-- A fixed number of hexadecimal digits. -/
def readHexDigits? (blanks : Bool) : Nat → Nat → List Char → Option (Nat × List Char)
  | 0, n, cs => some (n, cs)
  | count + 1, n, c :: rest =>
    match hexValue? c with
    | some d => readHexDigits? blanks count (16 * n + d) (skip blanks rest)
    | none => none
  | _ + 1, _, [] => none

/-- Hexadecimal digits up to a closing brace. -/
def readBracedHex? (blanks : Bool) (fuel : Nat) (read : Option Nat) (cs : List Char) :
    Option (Nat × List Char) :=
  match fuel, skip blanks cs with
  | _, '\x7d' :: rest => read.map fun n => (n, rest)
  | fuel + 1, c :: rest =>
    match hexValue? c with
    | some d => readBracedHex? blanks fuel (some (16 * read.getD 0 + d)) rest
    | none => none
  | _, _ => none

/-- The code after `\x`, `\u` or `\U`, in braces or with a fixed number of digits. -/
def readHexLiteral? (blanks : Bool) (digits : Nat) (cs : List Char) :
    Option (Literal × List Char) :=
  match skip blanks cs with
  | '\x7b' :: rest => do
    let (n, rest) ← readBracedHex? blanks (rest.length + 1) none rest
    let c ← charOfCode? n
    return (⟨c, none⟩, rest)
  | rest => do
    let (n, rest) ← readHexDigits? blanks digits 0 rest
    let c ← charOfCode? n
    return (⟨c, if digits = 2 then some n else none⟩, rest)

/-- The text up to a closing brace, less ignored blanks. -/
def readBraced? (blanks : Bool) (fuel : Nat) (read cs : List Char) :
    Option (String × List Char) :=
  match fuel, skip blanks cs with
  | _, '\x7d' :: rest => some (String.ofList read.reverse, rest)
  | fuel + 1, c :: rest => readBraced? blanks fuel (c :: read) rest
  | _, _ => none

/-- Splits a text at the first place where a mark stands. -/
def splitAtMark? (mark : List Char) (before cs : List Char) : Option (String × String) :=
  match cs with
  | [] => none
  | c :: rest =>
    if mark.isPrefixOf (c :: rest) then
      some (String.ofList before.reverse, String.ofList ((c :: rest).drop mark.length))
    else splitAtMark? mark (c :: before) rest

/-- The property that a text in braces names: alone, or with a value after `!=`, `:` or `=`. -/
def propertyOfText (negated : Bool) (text : String) : PropertyClass :=
  let cs := text.toList
  match splitAtMark? ['!', '='] [] cs with
  | some (property, value) => ⟨some property, value, !negated⟩
  | none =>
    match splitAtMark? [':'] [] cs with
    | some (property, value) => ⟨some property, value, negated⟩
    | none =>
      match splitAtMark? ['='] [] cs with
      | some (property, value) => ⟨some property, value, negated⟩
      | none => ⟨none, text, negated⟩

/-- The class after `\p` or `\P`. -/
def readProperty? (blanks negated : Bool) (cs : List Char) :
    Option (PropertyClass × List Char) :=
  match skip blanks cs with
  | '\x7b' :: rest => do
    let (text, rest) ← readBraced? blanks (rest.length + 1) [] rest
    return (propertyOfText negated text, rest)
  | '\\' :: _ => none
  | c :: rest => some (⟨none, c.toString, negated⟩, skip blanks rest)
  | [] => none

/-- The rest of a word edge in braces after `\b`. When the brace opens a repetition instead, nothing
is read. -/
def readWordEdge? (blanks : Bool) (cs : List Char) : Option (Assertion × List Char) :=
  match cs with
  | '\x7b' :: inner =>
    let isNameChar (c : Char) : Bool := c.isAlpha || c == '-'
    match skip blanks inner with
    | [] => none
    | c :: _ =>
      if isNameChar c then
        match readBraced? blanks (inner.length + 1) [] inner with
        | some ("start", rest) => some (.wordStart, rest)
        | some ("end", rest) => some (.wordStop, rest)
        | some ("start-half", rest) => some (.wordStartHalf, rest)
        | some ("end-half", rest) => some (.wordStopHalf, rest)
        | _ => none
      else some (.wordBoundary, cs)
  | _ => some (.wordBoundary, cs)

/-- What follows a backslash. -/
def readEscape? (blanks : Bool) : List Char → Option (Tree × List Char)
  | [] => none
  | c :: rest =>
    match c with
    | 'x' => (readHexLiteral? blanks 2 rest).map fun (l, rest) => (.literal l, rest)
    | 'u' => (readHexLiteral? blanks 4 rest).map fun (l, rest) => (.literal l, rest)
    | 'U' => (readHexLiteral? blanks 8 rest).map fun (l, rest) => (.literal l, rest)
    | 'p' => (readProperty? blanks false rest).map fun (p, rest) => (.property p, rest)
    | 'P' => (readProperty? blanks true rest).map fun (p, rest) => (.property p, rest)
    | 'd' => some (.letter .digit false, rest)
    | 'D' => some (.letter .digit true, rest)
    | 's' => some (.letter .blank false, rest)
    | 'S' => some (.letter .blank true, rest)
    | 'w' => some (.letter .word false, rest)
    | 'W' => some (.letter .word true, rest)
    | 'a' => some (.literal ⟨'\x07', none⟩, rest)
    | 'f' => some (.literal ⟨'\x0c', none⟩, rest)
    | 't' => some (.literal ⟨'\t', none⟩, rest)
    | 'n' => some (.literal ⟨'\n', none⟩, rest)
    | 'r' => some (.literal ⟨'\r', none⟩, rest)
    | 'v' => some (.literal ⟨'\x0b', none⟩, rest)
    | 'A' => some (.assertion .textStart, rest)
    | 'z' => some (.assertion .textStop, rest)
    | 'b' => (readWordEdge? blanks rest).map fun (a, rest) => (.assertion a, rest)
    | 'B' => some (.assertion .noWordBoundary, rest)
    | '<' => some (.assertion .wordStart, rest)
    | '>' => some (.assertion .wordStop, rest)
    | c => if isEscapable c then some (.literal ⟨c, none⟩, rest) else none

/-! ## Brackets -/

/-- The names of the ASCII classes. -/
def asciiClassNames : List String :=
  ["alnum", "alpha", "ascii", "blank", "cntrl", "digit", "graph", "lower", "print", "punct",
    "space", "upper", "word", "xdigit"]

/-- The name of an ASCII class, up to what closes it. -/
def readAsciiName? (negated : Bool) (cs : List Char) : Option (ClassTree × List Char) :=
  let name := String.ofList (cs.takeWhile (· != ':'))
  match cs.dropWhile (· != ':') with
  | ':' :: ']' :: rest =>
    if asciiClassNames.contains name then some (.ascii name negated, rest) else none
  | _ => none

/-- An ASCII class such as `[:alpha:]`, given what follows its opening bracket. -/
def readAsciiClass? : List Char → Option (ClassTree × List Char)
  | ':' :: '^' :: rest => readAsciiName? true rest
  | ':' :: rest => readAsciiName? false rest
  | _ => none

/-- One item: an escape, or a character that stands for itself. -/
def readClassItem? (blanks : Bool) : List Char → Option (Tree × List Char)
  | '\\' :: rest => readEscape? blanks rest
  | c :: rest => some (.literal ⟨c, none⟩, rest)
  | [] => none

/-- An item on its own. -/
def classOfItem? : Tree → Option ClassTree
  | .literal l => some (.literal l)
  | .letter kind negated => some (.letter kind negated)
  | .property p => some (.property p)
  | _ => none

/-- An item, or a range of two. -/
def readClassRange? (blanks : Bool) (cs : List Char) : Option (ClassTree × List Char) := do
  let (first, rest) ← readClassItem? blanks cs
  let rest := skip blanks rest
  match rest with
  | [] => none
  | '-' :: after =>
    match skip blanks after with
    | ']' :: _ => (classOfItem? first).map fun t => (t, rest)
    | '-' :: _ => (classOfItem? first).map fun t => (t, rest)
    | [] => none
    | after =>
      let (second, rest) ← readClassItem? blanks after
      match first, second with
      | .literal low, .literal high =>
        if low.char ≤ high.char then some (.range low high, rest) else none
      | _, _ => none
  | _ => (classOfItem? first).map fun t => (t, rest)

/-- Hyphens in a row, as items before those read so far. -/
def readHyphens (blanks : Bool) (read : List ClassTree) :
    Nat → List Char → List ClassTree × List Char
  | fuel + 1, '-' :: rest => readHyphens blanks (.literal ⟨'-', none⟩ :: read) fuel (skip blanks rest)
  | _, cs => (read, cs)

/-- The leading hyphens or closing bracket that stand for themselves. -/
def readLeadingItems? (blanks : Bool) (cs : List Char) : Option (List ClassTree × List Char) :=
  match readHyphens blanks [] cs.length cs with
  | (_, []) => none
  | ([], ']' :: rest) =>
    let rest := skip blanks rest
    if rest.isEmpty then none else some ([.literal ⟨']', none⟩], rest)
  | (items, cs) => some (items, cs)

/-- The start of a bracket, after `[`: its negation, and the leading items that stand for
themselves. -/
def readBracketStart? (blanks : Bool) (cs : List Char) :
    Option (Bool × List ClassTree × List Char) :=
  match skip blanks cs with
  | '^' :: rest =>
    (readLeadingItems? blanks (skip blanks rest)).map fun (items, rest) => (true, items, rest)
  | cs => (readLeadingItems? blanks cs).map fun (items, rest) => (false, items, rest)

/-- Joins what stands left of an operation with what has been read since. -/
def joinOperation (pending : Option (ClassOperation × ClassTree)) (items : List ClassTree) :
    ClassTree :=
  let right := ClassTree.ofItems items.reverse
  match pending with
  | none => right
  | some (op, left) => .operation op left right

/-- The items of a bracket up to its closing one. `pending` is the operation that waits for its right
side; operations group to the left. -/
def readBracketItems? (blanks : Bool) (fuel : Nat) (pending : Option (ClassOperation × ClassTree))
    (items : List ClassTree) (cs : List Char) : Option (ClassTree × List Char) :=
  match fuel with
  | 0 => none
  | fuel + 1 =>
    match skip blanks cs with
    | [] => none
    | ']' :: rest => some (joinOperation pending items, rest)
    | '[' :: rest =>
      match readAsciiClass? rest with
      | some (t, rest) => readBracketItems? blanks fuel pending (t :: items) rest
      | none =>
        match readBracketStart? blanks rest with
        | none => none
        | some (negated, start, rest) =>
          match readBracketItems? blanks fuel none start rest with
          | none => none
          | some (t, rest) =>
            readBracketItems? blanks fuel pending (.bracketed negated t :: items) rest
    | '&' :: '&' :: rest =>
      readBracketItems? blanks fuel (some (.intersection, joinOperation pending items)) [] rest
    | '-' :: '-' :: rest =>
      readBracketItems? blanks fuel (some (.difference, joinOperation pending items)) [] rest
    | '~' :: '~' :: rest =>
      readBracketItems? blanks fuel (some (.symmetricDifference, joinOperation pending items)) []
        rest
    | cs =>
      match readClassRange? blanks cs with
      | none => none
      | some (t, rest) => readBracketItems? blanks fuel pending (t :: items) rest

/-- A bracket, after `[`. -/
def readBracket? (blanks : Bool) (cs : List Char) : Option (Tree × List Char) := do
  let (negated, start, rest) ← readBracketStart? blanks cs
  let (t, rest) ← readBracketItems? blanks (cs.length + 1) none start rest
  return (.bracketed negated t, rest)

/-! ## Groups and repetitions -/

def flagOfChar? : Char → Option Flag
  | 'i' => some .caseInsensitive
  | 'm' => some .multiLine
  | 's' => some .dotMatchesNewline
  | 'U' => some .swapGreed
  | 'u' => some .unicode
  | 'R' => some .crlf
  | 'x' => some .ignoreBlanks
  | _ => none

/-- Flags up to `:` or `)`, each at most once, with at most one minus sign that is not the last. -/
def readFlags? (negative dangling : Bool) (read : FlagChanges) :
    List Char → Option (FlagChanges × Bool × List Char)
  | [] => none
  | c :: rest =>
    if c = ':' ∨ c = ')' then
      if dangling then none else some (read.reverse, c = ')', rest)
    else if c = '-' then
      if negative then none else readFlags? true true read rest
    else
      match flagOfChar? c with
      | none => none
      | some flag =>
        if read.any (·.1 == flag) then none
        else readFlags? negative false ((flag, !negative) :: read) rest

/-- May the character stand in the name of a group? -/
def isNameChar (first : Bool) (c : Char) : Bool :=
  if first then c == '_' || Unicode.isAlphabetic c
  else c == '_' || c == '.' || c == '[' || c == ']' || Unicode.isAlphanumeric c

/-- The name of a group, up to the closing angle bracket. -/
def readGroupName? (cs : List Char) : Option (String × List Char) :=
  let name := cs.takeWhile (· != '>')
  match cs.dropWhile (· != '>'), name with
  | '>' :: rest, first :: others =>
    if isNameChar true first && others.all (isNameChar false) then
      some (String.ofList name, rest)
    else none
  | _, _ => none

/-- What an opening parenthesis begins. -/
inductive GroupStart where
  | changes (changes : FlagChanges)
  | group (kind : GroupKind)

/-- The next capturing group, with a name that no group has yet. -/
def namedGroup? (count : GroupCount) (cs : List Char) :
    Option (GroupStart × GroupCount × List Char) := do
  let (name, rest) ← readGroupName? cs
  guard (!count.names.any (·.1 == name))
  let number := count.groups + 1
  return (.group (.capturing number), ⟨number, (name, number) :: count.names⟩, rest)

/-- What follows an opening parenthesis, up to the content of the group. Conditions on what lies
ahead or behind are refused. -/
def readGroupStart? (blanks : Bool) (count : GroupCount) (cs : List Char) :
    Option (GroupStart × GroupCount × List Char) :=
  match skip blanks cs with
  | '?' :: '=' :: _ => none
  | '?' :: '!' :: _ => none
  | '?' :: '<' :: '=' :: _ => none
  | '?' :: '<' :: '!' :: _ => none
  | '?' :: 'P' :: '<' :: rest => namedGroup? count rest
  | '?' :: '<' :: rest => namedGroup? count rest
  | '?' :: rest =>
    match readFlags? false false [] rest with
    | none => none
    | some (changes, true, rest) =>
      if changes.isEmpty then none else some (.changes changes, count, rest)
    | some (changes, false, rest) => some (.group (.plain changes), count, rest)
  | rest =>
    some (.group (.capturing (count.groups + 1)), { count with groups := count.groups + 1 }, rest)

/-- A decimal count, blanks around it allowed. -/
def readCount? (cs : List Char) : Option (Nat × List Char) :=
  let (digits, rest) := Decimal.spanDigits (cs.dropWhile Unicode.isBlank)
  let n := Decimal.natOfDigits digits
  if digits.isEmpty ∨ Nat.pow 2 32 ≤ n then none else some (n, rest.dropWhile Unicode.isBlank)

/-- The bounds of a repetition, after the opening brace. -/
def readBounds? (blanks : Bool) (cs : List Char) : Option (Nat × Option Nat × List Char) := do
  let (min, rest) ← readCount? (skip blanks cs)
  match rest with
  | ',' :: rest =>
    match skip blanks rest with
    | '\x7d' :: rest => return (min, none, rest)
    | rest =>
      let (max, rest) ← readCount? rest
      match rest with
      | '\x7d' :: rest => if min ≤ max then return (min, some max, rest) else none
      | _ => none
  | '\x7d' :: rest => return (min, some min, rest)
  | _ => none

/-- May a repetition follow the tree? -/
def isRepeatable : Tree → Bool
  | .nothing => false
  | .flags _ => false
  | _ => true

/-- A question mark makes a repetition lazy. -/
def readLaziness (cs : List Char) : Bool × List Char :=
  match cs with
  | '?' :: rest => (false, rest)
  | _ => (true, cs)

/-- The repetition that a character begins, if it begins one. -/
def readRepetition? (blanks : Bool) (c : Char) (rest : List Char) :
    Option (Nat × Option Nat × Bool × List Char) :=
  match c with
  | '?' => let (greedy, rest) := readLaziness rest; some (0, some 1, greedy, rest)
  | '*' => let (greedy, rest) := readLaziness rest; some (0, none, greedy, rest)
  | '+' => let (greedy, rest) := readLaziness rest; some (1, none, greedy, rest)
  | '\x7b' =>
    match readBounds? blanks rest with
    | some (min, max, rest) =>
      let (greedy, rest) := readLaziness (skip blanks rest)
      some (min, max, greedy, rest)
    | none => none
  | _ => none

def isRepetitionMark (c : Char) : Bool := c == '?' || c == '*' || c == '+' || c == '\x7b'

/-- The tree of the alternatives and the sequence read so far, both in reverse. -/
def treeOfParts (alternatives sequence : List Tree) : Tree :=
  Tree.ofAlternatives (Tree.ofSequence sequence.reverse :: alternatives).reverse

/-- Reads alternatives up to a closing parenthesis or the end of the text. The parenthesis is left in
the rest; `fuel` exceeds the number of characters. -/
def readItems? (fuel : Nat) (blanks : Bool) (count : GroupCount)
    (alternatives sequence : List Tree) (cs : List Char) : Option (Tree × GroupCount × List Char) :=
  match fuel with
  | 0 => none
  | fuel + 1 =>
    match skip blanks cs with
    | [] => some (treeOfParts alternatives sequence, count, [])
    | ')' :: rest => some (treeOfParts alternatives sequence, count, ')' :: rest)
    | '|' :: rest =>
      readItems? fuel blanks count (Tree.ofSequence sequence.reverse :: alternatives) [] rest
    | '(' :: rest =>
      match readGroupStart? blanks count rest with
      | none => none
      | some (.changes changes, count, rest) =>
        readItems? fuel ((flagState? changes .ignoreBlanks).getD blanks) count alternatives
          (.flags changes :: sequence) rest
      | some (.group kind, count, rest) =>
        let inner := match kind with
          | .plain changes => (flagState? changes .ignoreBlanks).getD blanks
          | .capturing _ => blanks
        match readItems? fuel inner count [] [] rest with
        | some (t, count, ')' :: rest) =>
          readItems? fuel blanks count alternatives (.group kind t :: sequence) rest
        | _ => none
    | '[' :: rest =>
      match readBracket? blanks rest with
      | none => none
      | some (t, rest) => readItems? fuel blanks count alternatives (t :: sequence) rest
    | '\\' :: rest =>
      match readEscape? blanks rest with
      | none => none
      | some (t, rest) => readItems? fuel blanks count alternatives (t :: sequence) rest
    | c :: rest =>
      if isRepetitionMark c then
        match sequence with
        | [] => none
        | t :: earlier =>
          if isRepeatable t then
            match readRepetition? blanks c rest with
            | none => none
            | some (min, max, greedy, rest) =>
              readItems? fuel blanks count alternatives (.repeated t min max greedy :: earlier) rest
          else none
      else
        let t : Tree := match c with
          | '.' => .dot
          | '^' => .assertion .caret
          | '$' => .assertion .dollar
          | c => .literal ⟨c, none⟩
        readItems? fuel blanks count alternatives (t :: sequence) rest

/-- Reads a pattern: its tree, and the names of its groups. -/
def Tree.ofText? (text : String) : Option (Tree × List (String × Nat)) :=
  let cs := text.toList
  match readItems? (cs.length + 1) false {} [] [] cs with
  | some (t, count, []) => if t.nesting ≤ nestingLimit then some (t, count.names) else none
  | _ => none

end ClusterMonitor.Regex

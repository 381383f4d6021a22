import ClusterMonitor.Yaml.ScalarText

/-!
# Reading tokens

Splits a text into tokens. Indentation opens and closes blocks; a scalar, or a whole collection in
brackets, turns out to be a key only when a colon follows it, so the places where a key may have
started are remembered.

* `Lexer` — the state: what is left of the text, the tokens so far, the open blocks and brackets.
* `Lexer.step?` — reads one token.
* `Token.ofText?` — all tokens of a text.
-/

namespace ClusterMonitor.Yaml

/-- A place where a key may have started. -/
structure PossibleKey where
  /-- Must a colon follow, because nothing else can stand in this column of a mapping? -/
  required : Bool
  /-- The number of tokens before it. -/
  number : Nat
  start : Spot

/-- The state of reading tokens. -/
structure Lexer where
  rest : List Spot
  /-- The tokens so far, the newest first. -/
  tokens : List Token := []
  count : Nat := 0
  /-- How many brackets are open. -/
  depth : Nat := 0
  /-- The column of the innermost block, if one is open. -/
  indent : Option Nat := none
  /-- The columns of the blocks around it. -/
  outer : List (Option Nat) := []
  /-- May a key start here? -/
  keyAllowed : Bool := true
  /-- Where a key may have started, for the innermost bracket first. -/
  keys : List (Option PossibleKey) := [none]

/-- The longest text that can be a key. -/
def longestKey : Nat := 1024

namespace Lexer

def inFlow (l : Lexer) : Bool := l.depth != 0

def add (l : Lexer) (t : Token) : Lexer :=
  { l with tokens := t :: l.tokens, count := l.count + 1 }

/-- Puts a token behind the first `number` ones. -/
def insertAt (l : Lexer) (number : Nat) (t : Token) : Lexer :=
  let after := l.count - number
  { l with tokens := l.tokens.take after ++ t :: l.tokens.drop after, count := l.count + 1 }

def allowKey (l : Lexer) (allowed : Bool) : Lexer := { l with keyAllowed := allowed }

/-- Drops characters. -/
def drop (l : Lexer) (n : Nat) : Lexer := { l with rest := l.rest.drop n }

/-- Closes the blocks that are indented deeper than a column; all without one. -/
def closeTo (l : Lexer) (column : Option Nat) : List (Option Nat) → Lexer
  | [] => l
  | parent :: outer =>
    if (match l.indent, column with
      | some i, some c => decide (c < i)
      | some _, none => true
      | none, _ => false) then
      closeTo ({ l with indent := parent, outer }.add .blockEnd) column outer
    else l

/-- Closes the blocks that are indented deeper than a column, outside of brackets. -/
def unroll (l : Lexer) (column : Option Nat) : Lexer :=
  if l.inFlow then l else l.closeTo column l.outer

/-- Opens a block at a column, if it is deeper than the one that is open; its token comes behind the
first `number` ones. -/
def roll (l : Lexer) (column number : Nat) (t : Token) : Lexer :=
  if l.inFlow then l
  else if l.indent.all (· < column) then
    { l with indent := some column, outer := l.indent :: l.outer }.insertAt number t
  else l

/-- Gives up the place where a key may have started; fails if one must have. -/
def forgetKey? (l : Lexer) : Option Lexer :=
  match l.keys with
  | some k :: keys => if k.required then none else some { l with keys := none :: keys }
  | _ => some l

/-- Remembers that a key may start here. -/
def saveKey? (l : Lexer) (start : Spot) : Option Lexer :=
  if l.keyAllowed then do
    let l ← l.forgetKey?
    let key : PossibleKey := ⟨!l.inFlow && l.indent == some start.column, l.count, start⟩
    return { l with keys := some key :: l.keys.drop 1 }
  else some l

/-- Is the place too far behind to be the start of a key that ends here? -/
def isStale (here : Spot) (k : PossibleKey) : Bool :=
  k.start.line < here.line || k.start.index + longestKey < here.index

/-- Forgets the places that are too far behind; fails if a key must have started at one. -/
def dropStale? (l : Lexer) (here : Spot) : Option Lexer :=
  if l.keys.any fun k => k.any fun k => isStale here k && k.required then none
  else some { l with keys := l.keys.map fun k => k.filter fun k => !isStale here k }

/-! ## What separates tokens -/

/-- Passes blanks, comments and line ends. Outside of brackets a tab does not count as a blank where a
key may start; a new line lets a key start. -/
def skipGap (l : Lexer) (spots : List Spot) : Lexer :=
  match spots with
  | [] => { l with rest := [] }
  | s :: rest =>
    if s.column = 0 ∧ s.char = byteOrderMark then skipGap l rest
    else if s.char = ' ' ∨ (s.char = '\t' ∧ (l.inFlow ∨ !l.keyAllowed)) then skipGap l rest
    else if isBreak s.char then skipGap (if l.inFlow then l else l.allowKey true) rest
    else if s.char = '#' then skipComment l rest
    else { l with rest := s :: rest }
where
  /-- Passes the rest of a comment, and then what follows it. -/
  skipComment (l : Lexer) : List Spot → Lexer
    | [] => { l with rest := [] }
    | s :: rest =>
      if isBreak s.char then skipGap (if l.inFlow then l else l.allowKey true) rest
      else skipComment l rest

/-! ## Single tokens -/

/-- A character of anchors and of the handles of tags. -/
def isNameChar (c : Char) : Bool := c.isAlphanum || c == '_' || c == '-'

/-- Opens a bracket. -/
def openFlow? (l : Lexer) (here : Spot) (t : Token) : Option Lexer := do
  let l ← l.saveKey? here
  return { l with depth := l.depth + 1, keys := none :: l.keys, keyAllowed := true }.drop 1 |>.add t

/-- Closes a bracket. -/
def closeFlow? (l : Lexer) (t : Token) : Option Lexer := do
  let l ← l.forgetKey?
  let l := if l.inFlow then { l with depth := l.depth - 1, keys := l.keys.drop 1 } else l
  return (l.allowKey false).drop 1 |>.add t

def flowEntry? (l : Lexer) : Option Lexer := do
  let l ← l.forgetKey?
  return (l.allowKey true).drop 1 |>.add .flowEntry

/-- The dash of an item. -/
def blockEntry? (l : Lexer) (here : Spot) : Option Lexer := do
  if !l.inFlow && !l.keyAllowed then none
  let l := l.roll here.column l.count .blockSequenceStart
  let l ← l.forgetKey?
  return (l.allowKey true).drop 1 |>.add .blockEntry

/-- The question mark of a key. -/
def explicitKey? (l : Lexer) (here : Spot) : Option Lexer := do
  if !l.inFlow && !l.keyAllowed then none
  let l := l.roll here.column l.count .blockMappingStart
  let l ← l.forgetKey?
  return (l.allowKey (!l.inFlow)).drop 1 |>.add .key

/-- The colon before a value. It turns what came before into a key, if a key may have started. -/
def value? (l : Lexer) (here : Spot) : Option Lexer :=
  match l.keys with
  | some k :: keys =>
    let l := { l with keys := none :: keys }.insertAt k.number .key
    let l := l.roll k.start.column k.number .blockMappingStart
    some ((l.allowKey false).drop 1 |>.add .value)
  | _ =>
    if !l.inFlow && !l.keyAllowed then none
    else
      let l := l.roll here.column l.count .blockMappingStart
      some ((l.allowKey (!l.inFlow)).drop 1 |>.add .value)

/-- The name of an anchor or an alias, and the rest. -/
def anchorName? (spots : List Spot) : Option (String × List Spot) :=
  let (name, rest) := Spot.span isNameChar spots
  let ends := Spot.endsWord rest ||
    rest.head?.any fun s => "?:,]\x7d%@\x60".toList.contains s.char
  if name.isEmpty || !ends then none else some (String.ofList name, rest)

/-- An anchor or an alias, its sign not yet read. -/
def reference? (l : Lexer) (here : Spot) (make : String → Token) : Option Lexer := do
  let l ← l.saveKey? here
  let (name, rest) ← anchorName? (l.rest.drop 1)
  return { l.allowKey false with rest }.add (make name)

/-! ## Tags -/

/-- The characters of a tag besides letters, digits and escapes. -/
def isTagChar (verbatim : Bool) (c : Char) : Bool :=
  isNameChar c || ";/?:@&=+$.!~*'()".toList.contains c || (verbatim && ",[]".toList.contains c)

/-- The bytes that a run of escapes spells. -/
def escapedBytes (spots : List Spot) : List UInt8 × List Spot :=
  match spots with
  | p :: a :: b :: rest =>
    match Text.hexValue? a.char, Text.hexValue? b.char with
    | some high, some low =>
      if p.char = '%' then
        let (bytes, rest) := escapedBytes rest
        (UInt8.ofNat (high * 16 + low) :: bytes, rest)
      else ([], spots)
    | _, _ => ([], spots)
  | _ => ([], spots)

/-- The text of a tag; nothing where an escape spells no character. -/
def tagText? (verbatim : Bool) (fuel : Nat) (spots : List Spot) :
    Option (List Char × List Spot) :=
  match fuel with
  | 0 => some ([], spots)
  | fuel + 1 =>
    let (plain, rest) := Spot.span (isTagChar verbatim) spots
    if Spot.startsWith '%' rest then do
      let (bytes, rest') := escapedBytes rest
      if bytes.isEmpty then none
      let cs ← Text.decode? bytes
      let (more, rest') ← tagText? verbatim fuel rest'
      return (plain ++ cs.toList ++ more, rest')
    else some (plain, rest)

/-- The handle of a tag: a mark, letters, and a mark again unless the tag has no handle. -/
def tagHandle? (spots : List Spot) : Option (List Char × List Spot) :=
  match spots with
  | s :: rest =>
    if s.char = '!' then
      let (name, rest) := Spot.span isNameChar rest
      if Spot.startsWith '!' rest then some ('!' :: name ++ ['!'], rest.drop 1)
      else some ('!' :: name, rest)
    else none
  | [] => none

/-- A tag in angle brackets, the opening one read. -/
def verbatimTag? (spots : List Spot) : Option (Token × List Spot) := do
  let (uri, rest) ← tagText? true spots.length spots
  if uri.isEmpty || !Spot.startsWith '>' rest then none
  return (.tag "" (String.ofList uri), rest.drop 1)

/-- A tag with a handle, or with the mark alone. -/
def shorthandTag? (spots : List Spot) : Option (Token × List Spot) := do
  let (handle, rest) ← tagHandle? spots
  let (uri, rest) ← tagText? false (rest.length + 1) rest
  if handle.length ≥ 2 ∧ handle.getLast? = some '!' then
    if uri.isEmpty then none
    return (.tag (String.ofList handle) (String.ofList uri), rest)
  else
    let suffix := handle.drop 1 ++ uri
    if suffix.isEmpty then return (.tag "" "!", rest)
    else return (.tag "!" (String.ofList suffix), rest)

def tag? (l : Lexer) (here : Spot) : Option Lexer := do
  let l ← l.saveKey? here
  let verbatim := Spot.startsWith '<' (l.rest.drop 1)
  let (t, rest) ← if verbatim then verbatimTag? (l.rest.drop 2) else shorthandTag? l.rest
  if !(Spot.endsWord rest || (l.inFlow && Spot.startsWith ',' rest)) then none
  return { l.allowKey false with rest }.add t

/-! ## Directives and documents -/

/-- A decimal number of up to nine digits. -/
def versionNumber? (spots : List Spot) : Option (Nat × List Spot) :=
  let (digits, rest) := Spot.span Char.isDigit spots
  if digits.isEmpty || 9 < digits.length then none
  else (Text.numberInBase? 10 digits).map fun n => (n, rest)

def versionDirective? (spots : List Spot) : Option (Token × List Spot) := do
  let (major, rest) ← versionNumber? (Spot.dropBlanks spots)
  if !Spot.startsWith '.' rest then none
  let (minor, rest) ← versionNumber? (rest.drop 1)
  return (.versionDirective major minor, rest)

def tagDirective? (spots : List Spot) : Option (Token × List Spot) := do
  let (handle, rest) ← tagHandle? (Spot.dropBlanks spots)
  if handle ≠ ['!'] ∧ handle.getLast? ≠ some '!' then none
  if !(rest.head?.any fun s => isBlank s.char) then none
  let rest := Spot.dropBlanks rest
  let (start, rest) ← tagText? true (rest.length + 1) rest
  if start.isEmpty || !Spot.endsWord rest then none
  return (.tagDirective (String.ofList handle) (String.ofList start), rest)

/-- A directive, its percent sign not yet read. -/
def directive? (l : Lexer) : Option Lexer := do
  let l ← (l.unroll none).forgetKey?
  let (name, rest) := Spot.span isNameChar (l.rest.drop 1)
  if !Spot.endsWord rest then none
  let (t, rest) ←
    if name = ['Y', 'A', 'M', 'L'] then versionDirective? rest
    else if name = ['T', 'A', 'G'] then tagDirective? rest
    else none
  let rest := Spot.dropBlanks rest
  let rest := if Spot.startsWith '#' rest then Spot.dropLine rest else rest
  if !Spot.endsLine rest then none
  return { l.allowKey false with rest := rest.drop 1 }.add t

/-- The mark of the start or the end of a document. -/
def documentMark? (l : Lexer) (t : Token) : Option Lexer := do
  let l ← (l.unroll none).forgetKey?
  return (l.allowKey false).drop 3 |>.add t

/-! ## Scalars -/

def blockScalar? (l : Lexer) (literal : Bool) : Option Lexer := do
  let l ← l.forgetKey?
  let (text, rest) ← block? literal l.indent (l.rest.drop 1)
  return { l.allowKey true with rest }.add (.scalar (String.ofList text) false)

def quotedScalar? (l : Lexer) (here : Spot) (double : Bool) : Option Lexer := do
  let l ← l.saveKey? here
  let (text, rest) ← quoted? double (l.rest.drop 1)
  return { l.allowKey false with rest }.add (.scalar (String.ofList text) false)

def plainScalar? (l : Lexer) (here : Spot) : Option Lexer := do
  let l ← l.saveKey? here
  let least := match l.indent with
    | some n => n + 1
    | none => 0
  let p ← plain? least l.inFlow l.rest
  return { l.allowKey p.lineEnded with rest := p.rest }.add (.scalar (String.ofList p.text) true)

/-- The characters that no plain scalar starts with, unless noted otherwise. -/
def indicators : List Char := "-?:,[]\x7b\x7d#&*!|>'\"%@\x60".toList

/-- Can a plain scalar start here? A dash, a question mark or a colon may start one if no blank
follows; the latter two only outside of brackets. -/
def startsPlain (l : Lexer) (here : Spot) (rest : List Spot) : Bool :=
  !(isBlank here.char || indicators.contains here.char) ||
    (here.char == '-' && !(rest.head?.any fun s => isBlank s.char)) ||
    (!l.inFlow && (here.char == '?' || here.char == ':') && !Spot.endsWord rest)

/-- Reads the token that starts at a character. -/
def token? (l : Lexer) (here : Spot) (rest : List Spot) : Option Lexer :=
  let c := here.char
  if here.column = 0 ∧ c = '%' then l.directive?
  else if Spot.isDocumentMark '-' (here :: rest) then l.documentMark? .documentStart
  else if Spot.isDocumentMark '.' (here :: rest) then l.documentMark? .documentEnd
  else if c = '[' then l.openFlow? here .flowSequenceStart
  else if c = '\x7b' then l.openFlow? here .flowMappingStart
  else if c = ']' then l.closeFlow? .flowSequenceEnd
  else if c = '\x7d' then l.closeFlow? .flowMappingEnd
  else if c = ',' then l.flowEntry?
  else if c = '-' ∧ Spot.endsWord rest then l.blockEntry? here
  else if c = '?' ∧ (l.inFlow ∨ Spot.endsWord rest) then l.explicitKey? here
  else if c = ':' ∧ (l.inFlow ∨ Spot.endsWord rest) then l.value? here
  else if c = '*' then l.reference? here .alias
  else if c = '&' then l.reference? here .anchor
  else if c = '!' then l.tag? here
  else if c = '|' ∧ !l.inFlow then l.blockScalar? true
  else if c = '>' ∧ !l.inFlow then l.blockScalar? false
  else if c = '\'' then l.quotedScalar? here false
  else if c = '"' then l.quotedScalar? here true
  else if l.startsPlain here rest then l.plainScalar? here
  else none

/-- Reads all tokens. -/
def run? : Nat → Lexer → Option (List Token)
  | 0, _ => none
  | fuel + 1, l =>
    let l := l.skipGap l.rest
    match l.rest with
    | [] => (l.unroll none).forgetKey?.map fun l => l.tokens.reverse
    | here :: rest => do
      let l ← l.dropStale? here
      let l ← (l.unroll (some here.column)).token? here rest
      run? fuel l

end Lexer

/-- The tokens of a text. -/
def Token.ofText? (text : String) : Option (List Token) := do
  let spots ← Spot.ofText? text
  Lexer.run? (spots.length + 1) { rest := spots }

end ClusterMonitor.Yaml

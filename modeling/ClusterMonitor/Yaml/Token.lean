/-!
# YAML tokens

What a YAML text is made of, before it is known how the parts nest. Indentation is already turned
into tokens that open and close blocks.

* `Token` — the tokens.
* `Spot` — a character with its place in the text; `Spot.ofText?` lays a text out.
-/

namespace ClusterMonitor.Yaml

/-- A token. -/
inductive Token where
  | versionDirective (major minor : Nat)
  | tagDirective (handle start : String)
  | documentStart
  | documentEnd
  | blockSequenceStart
  | blockMappingStart
  | blockEnd
  | flowSequenceStart
  | flowSequenceEnd
  | flowMappingStart
  | flowMappingEnd
  | blockEntry
  | flowEntry
  | key
  | value
  | alias (name : String)
  | anchor (name : String)
  | tag (handle suffix : String)
  | scalar (text : String) (plain : Bool)
deriving DecidableEq, Repr

/-- A character and where it stands. -/
structure Spot where
  char : Char
  index : Nat
  line : Nat
  column : Nat
deriving DecidableEq, Repr

/-- Ends the character a line? -/
def isBreak (c : Char) : Bool := c == '\n' || c == '\u2028' || c == '\u2029'

def isBlank (c : Char) : Bool := c == ' ' || c == '\t'

/-- May the character stand in a document at all? -/
def isAllowed (c : Char) : Bool :=
  let n := c.toNat
  n == 0x09 || n == 0x0A || n == 0x0D || (0x20 ≤ n && n ≤ 0x7E) || n == 0x85 ||
    (0xA0 ≤ n && n ≤ 0xFFFD) || 0x10000 ≤ n

/-- The mark that may start a text. -/
def byteOrderMark : Char := '\uFEFF'

/-- Writes all usual line ends as line feeds. -/
def unifyLineEnds : List Char → List Char
  | '\r' :: '\n' :: cs => '\n' :: unifyLineEnds cs
  | '\r' :: cs => '\n' :: unifyLineEnds cs
  | '\u0085' :: cs => '\n' :: unifyLineEnds cs
  | c :: cs => c :: unifyLineEnds cs
  | [] => []

namespace Spot

/-- Lays characters out from a place on. -/
def layOut (index line column : Nat) : List Char → List Spot
  | [] => []
  | c :: cs =>
    ⟨c, index, line, column⟩ ::
      if isBreak c then layOut (index + 1) (line + 1) 0 cs
      else layOut (index + 1) line (column + 1) cs

/-- The spots of a text, a mark at its start left out; nothing if the text holds characters that no
document may. -/
def ofText? (text : String) : Option (List Spot) :=
  let cs := text.toList
  if cs.all isAllowed then
    let cs := match cs with
      | c :: rest => if c = byteOrderMark then rest else c :: rest
      | [] => []
    some (layOut 0 0 0 (unifyLineEnds cs))
  else none

/-- Is the character a blank, a line end, or the end of the text? -/
def endsWord : List Spot → Bool
  | [] => true
  | s :: _ => isBlank s.char || isBreak s.char

/-- Ends the line here, or the text? -/
def endsLine : List Spot → Bool
  | [] => true
  | s :: _ => isBreak s.char

/-- Is the first character this one? -/
def startsWith (c : Char) : List Spot → Bool
  | [] => false
  | s :: _ => s.char == c

/-- Do three dashes, or three dots, stand at the start of a line here? -/
def isDocumentMark (c : Char) : List Spot → Bool
  | a :: b :: d :: rest =>
    a.column == 0 && a.char == c && b.char == c && d.char == c && endsWord rest
  | _ => false

/-- Does a document start or end here? -/
def isAnyDocumentMark (spots : List Spot) : Bool :=
  isDocumentMark '-' spots || isDocumentMark '.' spots

/-- The leading characters with a property, and the rest. -/
def span (p : Char → Bool) : List Spot → List Char × List Spot
  | [] => ([], [])
  | s :: rest =>
    if p s.char then
      let (cs, rest) := span p rest
      (s.char :: cs, rest)
    else ([], s :: rest)

/-- The rest of the line. -/
def dropLine : List Spot → List Spot
  | [] => []
  | s :: rest => if isBreak s.char then s :: rest else dropLine rest

/-- The spots after leading blanks. -/
def dropBlanks : List Spot → List Spot
  | [] => []
  | s :: rest => if isBlank s.char then dropBlanks rest else s :: rest

end Spot

end ClusterMonitor.Yaml

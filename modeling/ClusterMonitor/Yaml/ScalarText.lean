import ClusterMonitor.Text.Number
import ClusterMonitor.Text.Utf8
import ClusterMonitor.Yaml.Token

/-!
# Texts of scalars

Reads the text of a scalar in each of the styles: plain, in quotes of either kind, and as a block.

* `Gap` — what separates two words of a text, and what becomes of it: one line end turns into a
  blank, further ones are kept.
* `plain?`, `quoted?`, `block?` — the text of a scalar that starts here, and the rest.
-/

namespace ClusterMonitor.Yaml

/-- The blanks, or the line ends, between two words. -/
structure Gap where
  blanks : List Char := []
  /-- The first line end and the further ones, if the line ends. The first is missing where it is
  escaped. -/
  breaks : Option (List Char × List Char) := none
deriving DecidableEq, Repr

namespace Gap

/-- The gap with one more character. Blanks around line ends do not count. -/
def extend (g : Gap) (c : Char) : Gap :=
  if isBreak c then
    match g.breaks with
    | none => ⟨[], some ([c], [])⟩
    | some (first, further) => ⟨[], some (first, further ++ [c])⟩
  else
    match g.breaks with
    | none => { g with blanks := g.blanks ++ [c] }
    | some _ => g

/-- The text that stands for the gap. -/
def text (g : Gap) : List Char :=
  match g.breaks with
  | none => g.blanks
  | some (['\n'], []) => [' ']
  | some (['\n'], further) => further
  | some (first, further) => first ++ further

end Gap

/-! ## Plain scalars -/

def isFlowIndicator (c : Char) : Bool := ",[]\x7b\x7d".toList.contains c

/-- A word of a plain scalar; nothing if it holds a colon where none may be. -/
def plainWord? (flow : Bool) : List Spot → Option (List Char × List Spot)
  | [] => some ([], [])
  | s :: rest =>
    if isBlank s.char || isBreak s.char then some ([], s :: rest)
    else if flow && s.char == ':' && (rest.head?.any fun n => n.char == '?' || isFlowIndicator n.char)
    then none
    else if (s.char == ':' && Spot.endsWord rest) || (flow && isFlowIndicator s.char) then
      some ([], s :: rest)
    else (plainWord? flow rest).map fun (cs, rest) => (s.char :: cs, rest)

/-- The gap here and what follows it. A tab may not stand for the indentation of a line. -/
def plainGap? (indent : Nat) (g : Gap) : List Spot → Option (Gap × List Spot)
  | [] => some (g, [])
  | s :: rest =>
    if isBlank s.char then
      if g.breaks.isSome && decide (s.column < indent) && s.char == '\t' then none
      else plainGap? indent (g.extend s.char) rest
    else if isBreak s.char then plainGap? indent (g.extend s.char) rest
    else some (g, s :: rest)

/-- A plain scalar that has been read. -/
structure PlainText where
  text : List Char
  /-- Does a new line start after it? -/
  lineEnded : Bool
  rest : List Spot

/-- The words of a plain scalar, each with the gap before it. `indent` is the least column of its
lines; inside brackets there is none. -/
def plainFrom (fuel : Nat) (indent : Nat) (flow : Bool) (text : List Char) (gap : Gap)
    (spots : List Spot) : Option PlainText :=
  let ended : PlainText := ⟨text, gap.breaks.isSome, spots⟩
  match fuel with
  | 0 => some ended
  | fuel + 1 =>
    if Spot.isAnyDocumentMark spots || Spot.startsWith '#' spots then some ended
    else
      match plainWord? flow spots with
      | none => none
      | some (word, rest) =>
        let text := if word.isEmpty then text else text ++ gap.text ++ word
        let lineEnded := if word.isEmpty then gap.breaks.isSome else false
        if !Spot.endsWord rest || rest.isEmpty then some ⟨text, lineEnded, rest⟩
        else
          match plainGap? indent {} rest with
          | none => none
          | some (gap, rest) =>
            if !flow && (rest.head?.any fun s => s.column < indent) then
              some ⟨text, gap.breaks.isSome, rest⟩
            else plainFrom fuel indent flow text gap rest

/-- A plain scalar. -/
def plain? (indent : Nat) (flow : Bool) (spots : List Spot) : Option PlainText :=
  plainFrom (spots.length + 1) indent flow [] {} spots

/-! ## Quoted scalars -/

/-- The character that a letter after a backslash stands for. -/
def escaped? : Char → Option Char
  | '0' => some '\x00'
  | 'a' => some '\x07'
  | 'b' => some '\x08'
  | 't' => some '\t'
  | '\t' => some '\t'
  | 'n' => some '\n'
  | 'v' => some '\x0b'
  | 'f' => some '\x0c'
  | 'r' => some '\r'
  | 'e' => some '\x1b'
  | ' ' => some ' '
  | '"' => some '"'
  | '/' => some '/'
  | '\\' => some '\\'
  | 'N' => some '\u0085'
  | '_' => some '\u00A0'
  | 'L' => some '\u2028'
  | 'P' => some '\u2029'
  | _ => none

/-- How many hexadecimal digits a letter after a backslash asks for. -/
def escapeDigits? : Char → Option Nat
  | 'x' => some 2
  | 'u' => some 4
  | 'U' => some 8
  | _ => none

/-- The character with the code that some digits spell. -/
def charOfDigits? (digits : List Char) : Option Char := do
  let n ← Text.numberInBase? 16 digits
  if n.isValidChar then return Char.ofNat n else none

/-- The text up to the closing quote. `text` is what has been read; a gap is pending where words are
separated. -/
def quotedFrom (double : Bool) (text : List Char) (gap : Gap) : List Spot →
    Option (List Char × List Spot)
  | [] => none
  | s :: rest =>
    if Spot.isAnyDocumentMark (s :: rest) then none
    else if isBlank s.char || isBreak s.char then
      quotedFrom double text (gap.extend s.char) rest
    else
      let text := text ++ gap.text
      if double then
        if s.char = '"' then some (text, rest)
        else if s.char = '\\' then
          match rest with
          | [] => none
          | e :: rest =>
            if isBreak e.char then quotedFrom double text ⟨[], some ([], [])⟩ rest
            else
              match escaped? e.char, escapeDigits? e.char with
              | some c, _ => quotedFrom double (text ++ [c]) {} rest
              | none, some n =>
                if n ≤ rest.length then
                  match charOfDigits? ((rest.take n).map Spot.char) with
                  | some c => quotedFrom double (text ++ [c]) {} (rest.drop n)
                  | none => none
                else none
              | none, none => none
        else quotedFrom double (text ++ [s.char]) {} rest
      else if s.char = '\'' then
        match rest with
        | next :: rest' =>
          if next.char = '\'' then quotedFrom double (text ++ ['\'']) {} rest'
          else some (text, next :: rest')
        | [] => some (text, [])
      else quotedFrom double (text ++ [s.char]) {} rest
termination_by spots => spots.length
decreasing_by all_goals (simp only [List.length_cons, List.length_drop]; omega)

/-- A quoted scalar, its opening quote read. -/
def quoted? (double : Bool) (spots : List Spot) : Option (List Char × List Spot) :=
  quotedFrom double [] {} spots

/-! ## Block scalars -/

/-- What becomes of the line ends at the end of a block. -/
inductive Chomping where
  | strip
  | clip
  | keep
deriving DecidableEq, Repr

/-- The signs after the opening of a block: chomping, and the added indentation. -/
def blockHeader? (spots : List Spot) : Option (Chomping × Option Nat × List Spot) :=
  let chomping? : List Spot → Chomping × List Spot
    | s :: rest =>
      if s.char = '+' then (.keep, rest) else if s.char = '-' then (.strip, rest)
      else (.clip, s :: rest)
    | [] => (.clip, [])
  let digit? : List Spot → Option (Option Nat × List Spot)
    | s :: rest =>
      if s.char = '0' then none
      else if s.char.isDigit then some (some (s.char.toNat - 48), rest)
      else some (none, s :: rest)
    | [] => some (none, [])
  if Spot.startsWith '+' spots || Spot.startsWith '-' spots then
    let (chomping, rest) := chomping? spots
    (digit? rest).map fun (n, rest) => (chomping, n, rest)
  else
    match digit? spots with
    | none => none
    | some (none, rest) => some (.clip, none, rest)
    | some (n, rest) =>
      let (chomping, rest) := chomping? rest
      some (chomping, n, rest)

/-- The line ends before a line of a block, its indentation passed. Without a known indentation all
blanks are passed; `deepest` is the largest column where a line went on. -/
def blockBreaks? (indent : Option Nat) (deepest : Nat) (breaks : List Char) :
    List Spot → Option (Nat × List Char × List Spot)
  | [] => some (deepest, breaks, [])
  | s :: rest =>
    let before := indent.all (s.column < ·)
    if before && s.char == ' ' then blockBreaks? indent deepest breaks rest
    else
      let deepest := max deepest s.column
      if before && s.char == '\t' then none
      else if isBreak s.char then blockBreaks? indent deepest (breaks ++ [s.char]) rest
      else some (deepest, breaks, s :: rest)

/-- The lines of a block while they are read. -/
structure BlockText where
  text : List Char := []
  /-- The end of the last line. -/
  lineEnd : List Char := []
  /-- The line ends after it. -/
  further : List Char := []
  /-- Does the last line start with a blank, so that it is not folded? -/
  blankStart : Bool := false

/-- What stands before a line of a block; a folded block joins lines that start with no blank. -/
def BlockText.join (b : BlockText) (literal blankStart : Bool) : List Char :=
  if !literal && b.lineEnd == ['\n'] && !b.blankStart && !blankStart then
    b.text ++ (if b.further.isEmpty then [' '] else b.further)
  else b.text ++ b.lineEnd ++ b.further

/-- The lines of a block at an indentation. -/
def blockLines? (fuel : Nat) (literal : Bool) (indent : Nat) (b : BlockText) (spots : List Spot) :
    Option (BlockText × List Spot) :=
  match fuel, spots with
  | fuel + 1, s :: _ =>
    if s.column = indent then
      let blankStart := isBlank s.char
      let (line, rest) := Spot.span (fun c => !isBreak c) spots
      let (lineEnd, rest) := match rest with
        | e :: rest => ([e.char], rest)
        | [] => ([], [])
      match blockBreaks? (some indent) 0 [] rest with
      | none => none
      | some (_, further, rest) =>
        blockLines? fuel literal indent
          ⟨b.join literal blankStart ++ line, lineEnd, further, blankStart⟩ rest
    else some (b, spots)
  | _, _ => some (b, spots)

/-- A block scalar, its opening sign read. `parent` is the indentation around it. -/
def block? (literal : Bool) (parent : Option Nat) (spots : List Spot) :
    Option (List Char × List Spot) := do
  let (chomping, added, rest) ← blockHeader? spots
  let rest := Spot.dropBlanks rest
  let rest := if Spot.startsWith '#' rest then Spot.dropLine rest else rest
  if !Spot.endsLine rest then none
  let rest := rest.drop 1
  let given := added.map fun n => parent.getD 0 + n
  let (deepest, breaks, rest) ← blockBreaks? given 0 [] rest
  let least := match parent with
    | some n => n + 1
    | none => 1
  let indent := given.getD (max deepest (max least 1))
  let (b, rest) ← blockLines? rest.length literal indent { further := breaks } rest
  let tail := match chomping with
    | .strip => []
    | .clip => b.lineEnd
    | .keep => b.lineEnd ++ b.further
  return (b.text ++ tail, rest)

end ClusterMonitor.Yaml

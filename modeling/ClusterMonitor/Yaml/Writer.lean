import ClusterMonitor.Decimal.Written
import ClusterMonitor.Text.Lines
import ClusterMonitor.Yaml.PlainValue
import ClusterMonitor.Yaml.Token

/-!
# Writing YAML

Writes a value as a YAML document in block style: members and items one a line, members two columns
deeper than the mapping around them, the items of a sequence in the column of their key. A text
stands as it is where it reads back as that text, else in quotes; a text of several lines stands as
a block where it can.

* `ScalarForm.ofText` — the form in which a text is written.
* `Block` — lines of which the first continues a line that others have begun.
* `block` — the lines of a value; `lines` and `write` — of a whole document.
-/

namespace ClusterMonitor.Yaml

/-! ## Texts -/

/-- Does a line end here? -/
def endsLine (c : Char) : Bool := isBreak c || c == '\r' || c == '\u0085'

/-- Does a word end here? -/
def endsWord (c : Char) : Bool := isBlank c || endsLine c || c == '\x00'

/-- Is the character written as it is, other than by an escape? -/
def isPrintable (c : Char) : Bool :=
  let n := c.toNat
  n == 0x0A || (0x20 ≤ n && n ≤ 0x7E) || (0xA0 ≤ n && n != 0xFEFF && n != 0xFFFE && n != 0xFFFF)

/-- The characters that a plain text cannot start with. -/
def openingIndicators : List Char := "#,[]\x7b\x7d&*!|>'\"%@\x60".toList

/-- Would a plain text be taken for something else at this character? `before` and `after` are the
characters around it. -/
def isIndicator (before : Option Char) (c : Char) (after : Option Char) : Bool :=
  let atEnd := after.all endsWord
  match before with
  | none => openingIndicators.contains c || ([':', '?', '-'].contains c && atEnd)
  | some b => (c == ':' && atEnd) || (c == '#' && endsWord b)

/-- Is there an indicator in a text, whose last read character is `before`? -/
def hasIndicator (before : Option Char) : List Char → Bool
  | [] => false
  | c :: rest => isIndicator before c rest.head? || hasIndicator (some c) rest

/-- Does a text start like the mark of a document? -/
def startsLikeDocument (cs : List Char) : Bool :=
  ['-', '-', '-'].isPrefixOf cs || ['.', '.', '.'].isPrefixOf cs

/-- Do two neighbours in a text have these properties? -/
def hasNeighbours (first second : Char → Bool) : List Char → Bool
  | a :: b :: rest => (first a && second b) || hasNeighbours first second (b :: rest)
  | _ => false

/-- How a text is written. -/
inductive ScalarForm where
  | plain
  /-- In single quotes. -/
  | single
  /-- In double quotes, with escapes. -/
  | double
  /-- As a block of lines. -/
  | literal
deriving DecidableEq, Repr

namespace ScalarForm

/-- Reads a plain text back as itself, and not as another kind of value? -/
def isOwnText (text : String) : Bool :=
  match plainValue? text with
  | some (.string _) => !hasLeadingZero text.toList
  | _ => false

/-- Can the text be written only with escapes? -/
def needsEscapes (cs : List Char) : Bool :=
  !cs.all isPrintable || hasNeighbours (· == ' ') endsLine cs

/-- May the text stand without quotes? -/
def allowsPlain (cs : List Char) : Bool :=
  !(needsEscapes cs || cs.any endsLine || cs.head? == some ' ' || cs.getLast? == some ' ' ||
    startsLikeDocument cs || hasIndicator none cs)

/-- May the text stand in single quotes? -/
def allowsSingle (cs : List Char) : Bool :=
  !(needsEscapes cs || hasNeighbours endsLine (· == ' ') cs)

/-- May the text stand as a block? -/
def allowsLiteral (cs : List Char) : Bool := !(needsEscapes cs || cs.getLast? == some ' ')

/-- The form of a text: a block if it has several lines, plain if it can, else in quotes. -/
def ofText (text : String) : ScalarForm :=
  let cs := text.toList
  if cs.contains '\n' then if allowsLiteral cs then .literal else .double
  else if isOwnText text && allowsPlain cs then .plain
  else if allowsSingle cs then .single
  else .double

end ScalarForm

/-- A hexadecimal number in capitals, of at least this many digits. -/
def hexCode (digits n : Nat) : List Char :=
  let text := (Nat.toDigits 16 n).map Char.toUpper
  List.replicate (digits - text.length) '0' ++ text

/-- How a character is written in double quotes. -/
def escaped (c : Char) : List Char :=
  match c with
  | '\x00' => ['\\', '0']
  | '\x07' => ['\\', 'a']
  | '\x08' => ['\\', 'b']
  | '\t' => ['\\', 't']
  | '\n' => ['\\', 'n']
  | '\x0b' => ['\\', 'v']
  | '\x0c' => ['\\', 'f']
  | '\r' => ['\\', 'r']
  | '\x1b' => ['\\', 'e']
  | '"' => ['\\', '"']
  | '\\' => ['\\', '\\']
  | '\u0085' => ['\\', 'N']
  | '\u2028' => ['\\', 'L']
  | '\u2029' => ['\\', 'P']
  | c =>
    if isPrintable c then [c]
    else if c.toNat ≤ 0xFF then '\\' :: 'x' :: hexCode 2 c.toNat
    else '\\' :: 'u' :: hexCode 4 c.toNat

/-- Blanks up to a column. -/
def pad (indent : Nat) : List Char := List.replicate indent ' '

/-- Puts blanks before the text behind each line end, the one before the text included if `fresh`. -/
def padLines (indent : Nat) (fresh : Bool) : List Char → List Char
  | [] => []
  | c :: rest =>
    if endsLine c then c :: padLines indent true rest
    else if fresh then pad indent ++ c :: padLines indent false rest
    else c :: padLines indent false rest

/-- A text in single quotes. A line end that is not a line feed is followed by blanks. -/
def singleQuoted (indent : Nat) (cs : List Char) : List Char :=
  let last := if cs.getLast?.any endsLine then pad indent else []
  '\'' :: (padLines indent false cs).flatMap (fun c => if c == '\'' then [c, c] else [c]) ++
    last ++ ['\'']

/-! ## Blocks -/

/-- Lines, of which the first continues a line that has been begun; the others are whole. -/
structure Block where
  first : String
  rest : List String := []
deriving DecidableEq, Repr

namespace Block

/-- The block with a text before its first line. -/
def after (text : String) (b : Block) : Block := { b with first := text ++ b.first }

/-- The block as whole lines, the first one starting in a column. -/
def lines (indent : Nat) (b : Block) : List String :=
  (String.ofList (pad indent) ++ b.first) :: b.rest

/-- Blocks below each other, starting in the same column. -/
def stack (indent : Nat) : List Block → Block
  | [] => ⟨"", []⟩
  | b :: bs => { b with rest := b.rest ++ bs.flatMap (lines indent) }

end Block

/-- The sign of a text written as a block: whether its first line needs the depth to be told, and
what becomes of the line ends behind the last one. -/
def literalSign (cs : List Char) : String :=
  let depth := if cs.head?.any (fun c => c == ' ' || endsLine c) then "2" else ""
  let ending :=
    match cs.reverse with
    | [] => "-"
    | a :: before =>
      if !endsLine a then "-" else if before.head?.all endsLine then "+" else ""
  "|" ++ depth ++ ending

/-- A text as a block of lines, its content starting in a column. -/
def literalBlock (indent : Nat) (cs : List Char) : Block :=
  ⟨literalSign cs,
    (Text.splitLines '\n' cs).map fun line => String.ofList (padLines indent true line)⟩

/-- A text in a form. Only the content of its further lines depends on the column. -/
def textBlock (indent : Nat) (form : ScalarForm) (text : String) : Block :=
  match form with
  | .plain => ⟨text, []⟩
  | .single => ⟨String.ofList (singleQuoted indent text.toList), []⟩
  | .double => ⟨"\"" ++ String.ofList (text.toList.flatMap escaped) ++ "\"", []⟩
  | .literal => literalBlock indent text.toList

/-- How many bytes a key may have that stands on the line of its value. -/
def longestInlineKey : Nat := 128

/-- May a key stand on the line of its value? -/
def isSimpleKey (key : String) : Bool :=
  !key.toList.any endsLine && decide (key.utf8ByteSize ≤ longestInlineKey)

/-- The column of the value of a member: the items of a sequence share that of the mapping, unless
the key stands on lines of its own. -/
def memberColumn (indent : Nat) (key : String) : Value → Nat
  | .array _ => if isSimpleKey key then indent else indent + 2
  | _ => indent + 2

/-- Does a value start below the line of its key? -/
def isBelowKey : Value → Bool
  | .array items => !items.isEmpty
  | .object members => !members.isEmpty
  | _ => false

/-- A member with a key and the block of its value. -/
def memberBlock (indent : Nat) (key : String) (v : Value) (b : Block) : Block :=
  let keyBlock := textBlock (indent + 2) (ScalarForm.ofText key) key
  if !isSimpleKey key then .stack indent [keyBlock.after "? ", b.after ": "]
  else if isBelowKey v then ⟨keyBlock.first ++ ":", b.lines (memberColumn indent key v)⟩
  else b.after (keyBlock.first ++ ": ")

mutual

/-- The lines of a value. Its members or items start in a column, which is also that of the further
lines of a text. -/
def block (indent : Nat) : Value → Block
  | .null => ⟨"null", []⟩
  | .bool b => ⟨if b then "true" else "false", []⟩
  | .int n => ⟨toString n, []⟩
  | .float x => ⟨Decimal.Layout.yaml.write x, []⟩
  | .string s => textBlock indent (ScalarForm.ofText s) s
  | .array [] => ⟨"[]", []⟩
  | .array items => .stack indent (itemBlocks indent items)
  | .object [] => ⟨"\x7b\x7d", []⟩
  | .object members => .stack indent (memberBlocks indent members)

/-- The items of a sequence, each behind a dash. -/
def itemBlocks (indent : Nat) : List Value → List Block
  | [] => []
  | v :: rest => (block (indent + 2) v).after "- " :: itemBlocks indent rest

/-- The members of a mapping. -/
def memberBlocks (indent : Nat) : List (String × Value) → List Block
  | [] => []
  | (k, v) :: rest =>
    memberBlock indent k v (block (memberColumn indent k v) v) :: memberBlocks indent rest

end

/-- The lines of a document. -/
def lines (v : Value) : List String := (block 0 v).lines 0

/-- The text of a document. -/
def write (v : Value) : String := String.join ((lines v).map (· ++ "\n"))

end ClusterMonitor.Yaml

import ClusterMonitor.Decimal.Read
import ClusterMonitor.Text.Number
import ClusterMonitor.Unicode.Word
import ClusterMonitor.Value

/-!
# Values of environment variables

How the text of a variable is read as a value: `true` and `false`, numbers, quoted texts, sequences
in brackets and mappings in braces; all else is a text. A text that cannot be read to its end is
taken as it stands.

* `Setting.read` — the value of a text. It never fails.
* `Setting.bare` — the value of a run of characters without brackets, braces and commas.
-/

namespace ClusterMonitor.Setting

/-- What has been read, and the rest. -/
abbrev Step (α : Type) := Option (α × List Char)

/-- The blanks between the parts of a value. -/
def isGap (c : Char) : Bool := c == ' ' || c == '\t' || c == '\n' || c == '\x0c' || c == '\r'

def skipGaps (cs : List Char) : List Char := cs.dropWhile isGap

/-- Ends the character a bare value? -/
def isSeparator (c : Char) : Bool := [',', '{', '}', '[', ']'].contains c

/-- May the character stand in a key without quotes? -/
def isKeyChar (c : Char) : Bool := c.isAlphanum || c == '_' || c == '-'

/-- The integer of 64 bits that a text spells. -/
def integer? (cs : List Char) : Option Int :=
  let (minus, digits) := Decimal.splitSign cs
  if digits.isEmpty || !digits.all Char.isDigit then none
  else
    let n : Int := Decimal.natOfDigits digits
    if minus then if n ≤ Nat.pow 2 63 then some (-n) else none
    else if n < Nat.pow 2 64 then some n else none

/-- The value of a bare text: a float if it has a point, an integer, or the text. -/
def bare (text : String) : Value :=
  let cs := text.toList
  let float? := if cs.contains '.' then Decimal.floatOfText? cs else none
  match float?, integer? cs with
  | some x, _ => .ofFloat x
  | none, some n => .int n
  | none, none => .string text

/-- The character that some hexadecimal digits stand for, and the rest. -/
def escapedCode? (length : Nat) (cs : List Char) : Step Char :=
  let digits := cs.take length
  if digits.length < length then none
  else
    (digits.mapM Text.hexValue?).bind fun ds =>
      let code := ds.foldl (fun n d => 16 * n + d) 0
      if code.isValidChar then some (Char.ofNat code, cs.drop length) else none

/-- May the character stand for itself in a quoted text? -/
def isPlainChar (c : Char) : Bool := c == '\t' || (0x20 ≤ c.toNat && c.toNat != 0x7F)

/-- The characters that an escaped character stands for. -/
def simpleEscape? (c : Char) : Option Char :=
  match c with
  | '"' => some '"'
  | '\\' => some '\\'
  | 'b' => some '\x08'
  | 'f' => some '\x0c'
  | 'n' => some '\n'
  | 'r' => some '\r'
  | 't' => some '\t'
  | _ => none

/-- The rest of a text in quotes, behind the first one. -/
def quoted? (fuel : Nat) (cs read : List Char) : Step String :=
  match fuel, cs with
  | _, '"' :: rest => some (String.ofList read.reverse, rest)
  | fuel + 1, '\\' :: c :: rest =>
    let escaped? : Step Char :=
      match c with
      | 'u' => escapedCode? 4 rest
      | 'U' => escapedCode? 8 rest
      | c => (simpleEscape? c).map fun c => (c, rest)
    match escaped? with
    | some (c, rest) => quoted? fuel rest (c :: read)
    | none => none
  | fuel + 1, c :: rest =>
    if c != '\\' && isPlainChar c then quoted? fuel rest (c :: read) else none
  | _, _ => none

/-- A key and the rest. -/
def key? (cs : List Char) : Step String :=
  match cs with
  | '"' :: rest => quoted? (rest.length + 1) rest []
  | _ =>
    let name := cs.takeWhile isKeyChar
    if name.isEmpty then none else some (String.ofList name, cs.dropWhile isKeyChar)

/-- A bare value and the rest. -/
def readBare (cs : List Char) : Value × List Char :=
  let text := Unicode.trim (String.ofList (cs.takeWhile fun c => !isSeparator c))
  (bare text, cs.dropWhile fun c => !isSeparator c)

mutual

/-- A value with the blanks around it, and the rest. `fuel` bounds the number of characters. -/
def value? (fuel : Nat) (cs : List Char) : Step Value :=
  match fuel with
  | 0 => none
  | fuel + 1 =>
    let read? : Step Value :=
      match skipGaps cs with
      | 't' :: 'r' :: 'u' :: 'e' :: rest => some (.bool true, rest)
      | 'f' :: 'a' :: 'l' :: 's' :: 'e' :: rest => some (.bool false, rest)
      | '{' :: rest => (members? fuel rest []).map fun (ms, rest) => (.object ms, rest)
      | '[' :: rest => (items? fuel rest).map fun (vs, rest) => (.array vs, rest)
      | '"' :: rest =>
        (quoted? (rest.length + 1) rest []).map fun (text, rest) => (.string text, rest)
      | '\'' :: c :: '\'' :: rest => some (.string (String.singleton c), rest)
      | '\'' :: _ => none
      | rest => some (readBare rest)
    read?.map fun (v, rest) => (v, skipGaps rest)

/-- The items of a sequence, up to its closing bracket. A comma may follow the last one. -/
def items? (fuel : Nat) (cs : List Char) : Step (List Value) :=
  match fuel with
  | 0 => none
  | fuel + 1 =>
    match cs with
    | ']' :: rest => some ([], rest)
    | _ =>
      match value? fuel cs with
      | some (v, ',' :: rest) => (items? fuel rest).map fun (vs, rest) => (v :: vs, rest)
      | some (v, ']' :: rest) => some ([v], rest)
      | _ => none

/-- The members of a mapping, up to its closing brace. A comma may follow the last one. -/
def members? (fuel : Nat) (cs : List Char) (read : Dict Value) : Step (Dict Value) :=
  match fuel with
  | 0 => none
  | fuel + 1 =>
    match cs with
    | '}' :: rest => some (read, rest)
    | _ =>
      match key? (skipGaps cs) with
      | none => none
      | some (key, rest) =>
        match skipGaps rest with
        | '=' :: rest =>
          match value? fuel rest with
          | some (v, ',' :: rest) => members? fuel rest (Dict.set read key v)
          | some (v, '}' :: rest) => some (Dict.set read key v, rest)
          | _ => none
        | _ => none

end

/-- The value of a text. -/
def read (text : String) : Value :=
  match value? (2 * text.length + 2) text.toList with
  | some (v, []) => v
  | _ => .string text

end ClusterMonitor.Setting

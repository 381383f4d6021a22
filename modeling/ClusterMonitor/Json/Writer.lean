import ClusterMonitor.Value
import ClusterMonitor.Decimal.Written

/-!
# Writing JSON

`Json.write` puts a value on one line; `Json.writePretty` spreads it over lines, two spaces deeper
for each level. Members come in the order of their keys.
-/

namespace ClusterMonitor.Json

/-- A hexadecimal digit in lower case. -/
def hexChar (n : Nat) : Char := if n < 10 then Char.ofNat (48 + n) else Char.ofNat (87 + n)

/-- How a character is written inside a string: quotes, backslashes and control characters are
escaped, all else stands for itself. -/
def escapeChar (c : Char) : List Char :=
  match c with
  | '"' => ['\\', '"']
  | '\\' => ['\\', '\\']
  | '\n' => ['\\', 'n']
  | '\r' => ['\\', 'r']
  | '\t' => ['\\', 't']
  | '\x08' => ['\\', 'b']
  | '\x0c' => ['\\', 'f']
  | c =>
    if c.toNat < 0x20 then ['\\', 'u', '0', '0', hexChar (c.toNat / 16), hexChar (c.toNat % 16)]
    else [c]

/-- A string in quotes. -/
def quote (s : String) : String :=
  "\"" ++ String.ofList (s.toList.flatMap escapeChar) ++ "\""

mutual

/-- A value on one line, without blanks. -/
def write : Value → String
  | .null => "null"
  | .bool b => if b then "true" else "false"
  | .int n => toString n
  | .float x => Decimal.Layout.json.write x
  | .string s => quote s
  | .array items => "[" ++ writeItems items ++ "]"
  | .object members => "\x7b" ++ writeMembers members ++ "\x7d"

/-- Items, separated by commas. -/
def writeItems : List Value → String
  | [] => ""
  | [v] => write v
  | v :: rest => write v ++ "," ++ writeItems rest

/-- Members, separated by commas. -/
def writeMembers : List (String × Value) → String
  | [] => ""
  | [(k, v)] => quote k ++ ":" ++ write v
  | (k, v) :: rest => quote k ++ ":" ++ write v ++ "," ++ writeMembers rest

end

/-- The start of a line at a depth. -/
def lineStart (depth : Nat) : String := "\n" ++ String.ofList (List.replicate (2 * depth) ' ')

mutual

/-- A value over several lines, its own lines `depth` levels deep. -/
def writeIndented (depth : Nat) : Value → String
  | .array [] => "[]"
  | .array items => "[" ++ writeIndentedItems (depth + 1) items ++ lineStart depth ++ "]"
  | .object [] => "\x7b\x7d"
  | .object members =>
    "\x7b" ++ writeIndentedMembers (depth + 1) members ++ lineStart depth ++ "\x7d"
  | .null => "null"
  | .bool b => if b then "true" else "false"
  | .int n => toString n
  | .float x => Decimal.Layout.json.write x
  | .string s => quote s

/-- Items, one a line. -/
def writeIndentedItems (depth : Nat) : List Value → String
  | [] => ""
  | [v] => lineStart depth ++ writeIndented depth v
  | v :: rest => lineStart depth ++ writeIndented depth v ++ "," ++ writeIndentedItems depth rest

/-- Members, one a line. -/
def writeIndentedMembers (depth : Nat) : List (String × Value) → String
  | [] => ""
  | [(k, v)] => lineStart depth ++ quote k ++ ": " ++ writeIndented depth v
  | (k, v) :: rest =>
    lineStart depth ++ quote k ++ ": " ++ writeIndented depth v ++ "," ++
      writeIndentedMembers depth rest

end

/-- A value over several lines. -/
def writePretty (v : Value) : String := writeIndented 0 v

end ClusterMonitor.Json

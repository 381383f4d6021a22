import ClusterMonitor.Unicode.CharSet
import ClusterMonitor.Unicode.Category
import ClusterMonitor.Unicode.Property

/-!
# Quoted text in messages

`quoted` shows a text in double quotes so that a reader sees every character of it: quotes and
backslashes get a backslash, control characters their short names, and characters that would not be
visible on their own are written by their code, as in `\u{200b}`.
-/

namespace ClusterMonitor.Text

open Unicode (CharSet)

/-- The characters of some categories. -/
private def categoriesSet (names : List String) : CharSet :=
  names.foldl
    (fun s name =>
      Unicode.Category.table.foldl
        (fun s entry => if entry.1.contains name then s.union (.ofHex entry.2) else s) s)
    CharSet.empty

/-- Characters that are not visible, or that combine with the one before them. -/
def hiddenSet : CharSet :=
  let invisible := categoriesSet ["cc", "cf", "cs", "co", "cn", "zl", "zp", "zs"]
  Unicode.Property.table.foldl
    (fun s entry => if entry.1.contains "grext" then s.union (.ofHex entry.2) else s) invisible

/-- Is the character shown by its code? -/
def isHidden (c : Char) : Bool :=
  if c.toNat < 0x7F then c.toNat < 0x20 else hiddenSet.contains c

/-- A code in lower-case hexadecimal digits. -/
def hexText (n : Nat) : List Char := Nat.toDigits 16 n

/-- How a character is shown. -/
def quotedChar (c : Char) : List Char :=
  match c with
  | '"' => ['\\', '"']
  | '\\' => ['\\', '\\']
  | '\n' => ['\\', 'n']
  | '\r' => ['\\', 'r']
  | '\t' => ['\\', 't']
  | '\x00' => ['\\', '0']
  | c => if isHidden c then ['\\', 'u', '\x7b'] ++ hexText c.toNat ++ ['\x7d'] else [c]

/-- A text in double quotes. -/
def quoted (s : String) : String := "\"" ++ String.ofList (s.toList.flatMap quotedChar) ++ "\""

end ClusterMonitor.Text

import ClusterMonitor.Value
import ClusterMonitor.Decimal.Read
import ClusterMonitor.Text.Number

/-!
# Reading JSON

`Json.read?` reads one JSON text as a value. Integers between `-2^63` and `2^64 - 1` are integers;
every other number, `-0` included, is a float. The last member of a key wins. Texts nested deeper
than 127 levels, and numbers too large for a float, are refused.
-/

namespace ClusterMonitor.Json

/-- The largest significand that is kept in full while reading a number. -/
def largestSignificand : Nat := Nat.pow 2 64 - 1

/-- How many levels of arrays and objects a text may have. -/
def depthLimit : Nat := 127

def isBlank (c : Char) : Bool := c = ' ' ∨ c = '\n' ∨ c = '\t' ∨ c = '\r'

def skipBlanks (cs : List Char) : List Char := cs.dropWhile isBlank

/-- The digits of a number that fit into a significand, and how many did not. -/
def significandOf : Nat → List Char → Nat × Nat
  | n, [] => (n, 0)
  | n, c :: cs =>
    let next := 10 * n + (c.toNat - '0'.toNat)
    if next ≤ largestSignificand then significandOf next cs else (n, cs.length + 1)

/-- The value of a float whose parts are given; digits beyond the significand only shift it. -/
def floatOfParts (minus : Bool) (whole fraction : List Char) (exponent : Int) : Option Value :=
  let (significand, dropped) := significandOf 0 (whole ++ fraction)
  let kept : Int := whole.length + fraction.length - dropped
  let shift : Int := if kept < whole.length then whole.length - kept else -(kept - whole.length)
  (Decimal.scaled significand (shift + exponent)).map fun x => .float (if minus then -x else x)

/-- An exponent part, if there is one, and what follows. -/
def readExponent? : List Char → Option (Option Int × List Char)
  | c :: cs =>
    if c = 'e' ∨ c = 'E' then
      let (minus, rest) := Decimal.splitSign cs
      let (digits, rest) := Decimal.spanDigits rest
      if digits.isEmpty then none
      else
        let n : Int := Decimal.natOfDigits digits
        some (some (if minus then -n else n), rest)
    else some (none, c :: cs)
  | [] => some (none, [])

/-- An integer where it fits, else a float. -/
def wholeNumber (minus : Bool) (digits : List Char) : Option Value :=
  let n := Decimal.natOfDigits digits
  if minus then
    if 0 < n ∧ n ≤ Nat.pow 2 63 then some (.int (-n)) else floatOfParts true digits [] 0
  else if n ≤ largestSignificand then some (.int n) else floatOfParts false digits [] 0

/-- A number and what follows. -/
def readNumber? (cs : List Char) : Option (Value × List Char) := do
  let (minus, rest) := match cs with
    | '-' :: rest => (true, rest)
    | _ => (false, cs)
  let (whole, rest) := Decimal.spanDigits rest
  guard (!whole.isEmpty)
  guard (whole.length = 1 ∨ whole.head? ≠ some '0')
  let (fraction, rest) ← match rest with
    | '.' :: rest =>
      let (fraction, rest) := Decimal.spanDigits rest
      if fraction.isEmpty then none else some (fraction, rest)
    | _ => some ([], rest)
  let (exponent, rest) ← readExponent? rest
  let v ← match fraction, exponent with
    | [], none => wholeNumber minus whole
    | _, exponent => floatOfParts minus whole fraction (exponent.getD 0)
  return (v, rest)

/-- Four hexadecimal digits and what follows. -/
def readUnit? : List Char → Option (Nat × List Char)
  | a :: b :: c :: d :: rest => do
    let a ← Text.hexValue? a
    let b ← Text.hexValue? b
    let c ← Text.hexValue? c
    let d ← Text.hexValue? d
    return (4096 * a + 256 * b + 16 * c + d, rest)
  | _ => none

/-- The character that a `\u` escape stands for, a surrogate pair taken as one, and what follows.
Lone surrogates are refused. -/
def readEscapedUnit? (cs : List Char) : Option (Char × List Char) := do
  let (unit, rest) ← readUnit? cs
  if 0xDC00 ≤ unit ∧ unit ≤ 0xDFFF then none
  else if 0xD800 ≤ unit ∧ unit ≤ 0xDBFF then
    match rest with
    | '\\' :: 'u' :: rest => do
      let (low, rest) ← readUnit? rest
      guard (0xDC00 ≤ low ∧ low ≤ 0xDFFF)
      return (Char.ofNat (0x10000 + (unit - 0xD800) * 0x400 + (low - 0xDC00)), rest)
    | _ => none
  else return (Char.ofNat unit, rest)

/-- The rest of a string after its opening quote; `fuel` bounds the number of characters. -/
def readString? (fuel : Nat) (cs : List Char) (read : List Char) : Option (String × List Char) :=
  match fuel, cs with
  | _, '"' :: rest => some (String.ofList read.reverse, rest)
  | fuel + 1, '\\' :: c :: rest =>
    match c with
    | '"' => readString? fuel rest ('"' :: read)
    | '\\' => readString? fuel rest ('\\' :: read)
    | '/' => readString? fuel rest ('/' :: read)
    | 'b' => readString? fuel rest ('\x08' :: read)
    | 'f' => readString? fuel rest ('\x0c' :: read)
    | 'n' => readString? fuel rest ('\n' :: read)
    | 'r' => readString? fuel rest ('\r' :: read)
    | 't' => readString? fuel rest ('\t' :: read)
    | 'u' =>
      match readEscapedUnit? rest with
      | some (c, rest) => readString? fuel rest (c :: read)
      | none => none
    | _ => none
  | fuel + 1, c :: rest =>
    if c.toNat < 0x20 ∨ c = '\\' then none else readString? fuel rest (c :: read)
  | _, _ => none

/-- A fixed word and what follows. -/
def dropWord? : List Char → List Char → Option (List Char)
  | [], rest => some rest
  | w :: word, c :: rest => if w = c then dropWord? word rest else none
  | _ :: _, [] => none

mutual

/-- A value and what follows. `fuel` bounds the number of characters, `depth` the nesting. -/
def readValue? (fuel depth : Nat) (cs : List Char) : Option (Value × List Char) :=
  match fuel with
  | 0 => none
  | fuel + 1 =>
    match skipBlanks cs with
    | 'n' :: rest => (dropWord? ['u', 'l', 'l'] rest).map fun rest => (.null, rest)
    | 't' :: rest => (dropWord? ['r', 'u', 'e'] rest).map fun rest => (.bool true, rest)
    | 'f' :: rest => (dropWord? ['a', 'l', 's', 'e'] rest).map fun rest => (.bool false, rest)
    | '"' :: rest =>
      (readString? (rest.length + 1) rest []).map fun (s, rest) => (.string s, rest)
    | '[' :: rest =>
      if depth = 0 then none
      else
        match skipBlanks rest with
        | ']' :: rest => some (.array [], rest)
        | rest => readItems? fuel (depth - 1) rest []
    | '{' :: rest =>
      if depth = 0 then none
      else
        match skipBlanks rest with
        | '}' :: rest => some (.object [], rest)
        | rest => readMembers? fuel (depth - 1) rest []
    | rest => readNumber? rest

/-- The items of an array, from the first one to the closing bracket. -/
def readItems? (fuel depth : Nat) (cs : List Char) (read : List Value) :
    Option (Value × List Char) :=
  match fuel with
  | 0 => none
  | fuel + 1 =>
    match readValue? fuel depth cs with
    | none => none
    | some (v, rest) =>
      match skipBlanks rest with
      | ',' :: rest => readItems? fuel depth rest (v :: read)
      | ']' :: rest => some (.array (v :: read).reverse, rest)
      | _ => none

/-- The members of an object, from the first one to the closing brace. -/
def readMembers? (fuel depth : Nat) (cs : List Char) (read : Dict Value) :
    Option (Value × List Char) :=
  match fuel with
  | 0 => none
  | fuel + 1 =>
    match skipBlanks cs with
    | '"' :: rest =>
      match readString? (rest.length + 1) rest [] with
      | none => none
      | some (key, rest) =>
        match skipBlanks rest with
        | ':' :: rest =>
          match readValue? fuel depth rest with
          | none => none
          | some (v, rest) =>
            match skipBlanks rest with
            | ',' :: rest => readMembers? fuel depth rest (Dict.set read key v)
            | '}' :: rest => some (.object (Dict.set read key v), rest)
            | _ => none
        | _ => none
    | _ => none

end

/-- Reads one JSON text. -/
def read? (text : String) : Option Value :=
  let cs := text.toList
  match readValue? (2 * cs.length + 2) depthLimit cs with
  | some (v, rest) => if (skipBlanks rest).isEmpty then some v else none
  | none => none

end ClusterMonitor.Json

/-!
# Punycode

Writes the non-ASCII characters of a label with ASCII letters and digits. The characters are taken in
the order of their codes; for each, the number of steps since the one before is written as a number
of variable length, whose digits adapt to the sizes seen so far.

* `encode` — the ASCII form of a label.
* `decode?` — reads it back.
-/

namespace ClusterMonitor.Punycode

/-- The number of digits. -/
def base : Nat := 36

/-- A digit: `a` to `z`, then `0` to `9`. -/
def digit (d : Nat) : Char := if d < 26 then Char.ofNat (97 + d) else Char.ofNat (22 + d)

def digitValue? (c : Char) : Option Nat :=
  if 'a' ≤ c ∧ c ≤ 'z' then some (c.toNat - 97)
  else if 'A' ≤ c ∧ c ≤ 'Z' then some (c.toNat - 65)
  else if '0' ≤ c ∧ c ≤ '9' then some (c.toNat - 22)
  else none

/-- A digit below the threshold of its place ends a number. -/
def threshold (place bias : Nat) : Nat :=
  if place ≤ bias then 1 else if bias + 26 ≤ place then 26 else place - bias

theorem threshold_pos (place bias : Nat) : 0 < threshold place bias := by
  unfold threshold
  repeat' split
  all_goals omega

/-- Scales a distance down; `bias` collects the places that it took. -/
def scaleDown (bias delta : Nat) : Nat × Nat :=
  if 455 < delta then scaleDown (bias + base) (delta / 35) else (bias, delta)
termination_by delta
decreasing_by omega

/-- The bias after a number has been written or read. -/
def adapt (delta points : Nat) (first : Bool) : Nat :=
  let delta := if first then delta / 700 else delta / 2
  let (bias, delta) := scaleDown 0 (delta + delta / points)
  bias + base * delta / (delta + 38)

/-- The digits of a number from a place on. -/
def encodeNumber (bias place q : Nat) : List Char :=
  let t := threshold place bias
  if h : q < t then [digit q]
  else
    have : (q - t) / (base - t) < q := by
      have ht : 0 < t := threshold_pos place bias
      exact Nat.lt_of_le_of_lt (Nat.div_le_self _ _) (by omega)
    digit (t + (q - t) % (base - t)) :: encodeNumber bias (place + base) ((q - t) / (base - t))
termination_by q

/-- The state of writing a label. -/
structure Encoding where
  /-- The distance since the last character written. -/
  delta : Nat := 0
  bias : Nat := 72
  /-- How many characters are written. -/
  written : Nat
  /-- How many of them are ASCII. -/
  basic : Nat
  out : List Char := []

/-- Passes one character of the label while those with code `m` are written. -/
def Encoding.pass (m : Nat) (e : Encoding) (c : Char) : Encoding :=
  if c.toNat < m then { e with delta := e.delta + 1 }
  else if c.toNat = m then
    { e with
      out := e.out ++ encodeNumber e.bias base e.delta
      bias := adapt e.delta (e.written + 1) (e.written == e.basic)
      delta := 0
      written := e.written + 1 }
  else e

/-- Writes the characters with each of some codes in turn; the codes before `next` are written. -/
def Encoding.passAll (label : List Char) (next : Nat) (e : Encoding) : List Nat → Encoding
  | [] => e
  | m :: codes =>
    let e := { e with delta := e.delta + (m - next) * (e.written + 1) }
    let e := label.foldl (Encoding.pass m) e
    passAll label (m + 1) { e with delta := e.delta + 1 } codes

/-- Codes in increasing order, each once. -/
def increasing (codes : List Nat) : List Nat := (codes.mergeSort (· ≤ ·)).eraseDups

/-- The ASCII form of a label. -/
def encode (label : List Char) : List Char :=
  let basic := label.filter fun c => c.toNat < 128
  let codes := increasing ((label.map Char.toNat).filter (128 ≤ ·))
  let start : Encoding := { written := basic.length, basic := basic.length }
  basic ++ (if basic.isEmpty then [] else ['-']) ++ (start.passAll label 128 codes).out

/-- The state of reading a label. -/
structure Decoding where
  chars : List Char
  code : Nat := 128
  bias : Nat := 72
  /-- Where the next character goes, counted from the start of the label. -/
  position : Nat := 0
  /-- The position when the number under way began. -/
  start : Nat := 0
  weight : Nat := 1
  place : Nat := base

/-- Reads one digit. -/
def Decoding.read? (d : Decoding) (c : Char) : Option Decoding := do
  let value ← digitValue? c
  let position := d.position + value * d.weight
  let t := threshold d.place d.bias
  if t ≤ value then
    return { d with position, weight := d.weight * (base - t), place := d.place + base }
  else
    let points := d.chars.length + 1
    let code := d.code + position / points
    let position := position % points
    if h : code.isValidChar then
      return {
        chars := d.chars.take position ++ Char.ofNatAux code h :: d.chars.drop position
        code
        bias := adapt (d.position + value * d.weight - d.start) points (d.start == 0)
        position := position + 1
        start := position + 1 }
    else none

/-- Reads an ASCII form: the characters before the last hyphen stand for themselves. -/
def decode? (text : List Char) : Option (List Char) := do
  let digits := (text.reverse.takeWhile (· ≠ '-')).reverse
  let basic := text.take (text.length - digits.length - 1)
  let d ← digits.foldlM Decoding.read? { chars := basic }
  if d.place = base then return d.chars else none

end ClusterMonitor.Punycode

/-!
# Sets of characters

A set of code points as a list of ranges, increasing and with gaps between them. All operations keep
this form; `negate` is taken within the code points up to `0x10FFFF`.
-/

namespace ClusterMonitor.Unicode

/-- A set of code points, as increasing ranges with both ends included. -/
structure CharSet where
  ranges : List (Nat × Nat)
deriving DecidableEq, Repr

/-- The largest code point. -/
def lastCode : Nat := 0x10FFFF

/-- The number that hexadecimal digits spell. -/
def natOfHex (text : String) : Nat :=
  text.toList.foldl
    (fun n c => 16 * n + (if c.isDigit then c.toNat - 48 else if c.isUpper then c.toNat - 55
      else c.toNat - 87)) 0

namespace CharSet

def empty : CharSet := ⟨[]⟩

def all : CharSet := ⟨[(0, lastCode)]⟩

/-- Is the code in one of the ranges? Ranges beyond it are not looked at. -/
def inRanges (code : Nat) : List (Nat × Nat) → Bool
  | [] => false
  | (low, high) :: rest =>
    if code < low then false else if code ≤ high then true else inRanges code rest

def containsCode (s : CharSet) (code : Nat) : Bool := inRanges code s.ranges

def contains (s : CharSet) (c : Char) : Bool := inRanges c.toNat s.ranges

/-- Adds a range, joining the ranges that it meets or touches. -/
def insertRange : List (Nat × Nat) → Nat → Nat → List (Nat × Nat)
  | [], low, high => [(low, high)]
  | (a, b) :: rest, low, high =>
    if high + 1 < a then (low, high) :: (a, b) :: rest
    else if b + 1 < low then (a, b) :: insertRange rest low high
    else insertRange rest (min a low) (max b high)

def insert (s : CharSet) (low high : Nat) : CharSet := ⟨insertRange s.ranges low high⟩

def ofRange (low high : Nat) : CharSet := ⟨[(low, high)]⟩

def singleton (c : Char) : CharSet := ⟨[(c.toNat, c.toNat)]⟩

def ofChars (cs : List Char) : CharSet := cs.foldl (fun s c => s.insert c.toNat c.toNat) empty

/-- The set whose ranges are given in any order. -/
def ofRanges (ranges : List (Nat × Nat)) : CharSet :=
  ⟨ranges.foldr (fun r rest => insertRange rest r.1 r.2) []⟩

def union (s t : CharSet) : CharSet :=
  ⟨t.ranges.foldr (fun r rest => insertRange rest r.1 r.2) s.ranges⟩

/-- The gaps between the ranges, from a first code on. -/
def gaps : Nat → List (Nat × Nat) → List (Nat × Nat)
  | start, [] => if start ≤ lastCode then [(start, lastCode)] else []
  | start, (low, high) :: rest =>
    if start < low then (start, low - 1) :: gaps (high + 1) rest else gaps (high + 1) rest

def negate (s : CharSet) : CharSet := ⟨gaps 0 s.ranges⟩

def inter (s t : CharSet) : CharSet := (s.negate.union t.negate).negate

def diff (s t : CharSet) : CharSet := s.inter t.negate

def symmDiff (s t : CharSet) : CharSet := (s.union t).diff (s.inter t)

/-- Are all members ASCII characters? -/
def isAscii (s : CharSet) : Bool := s.ranges.all fun r => r.2 < 0x80

/-- Reads ranges `41-5A` and single codes `5F`, separated by blanks, which are given in increasing
order. -/
def ofHex (lines : List String) : CharSet :=
  ⟨lines.flatMap fun line =>
    (line.splitOn " ").filterMap fun text =>
      match text.splitOn "-" with
      | [low, high] => some (natOfHex low, natOfHex high)
      | [code] => if code.isEmpty then none else some (natOfHex code, natOfHex code)
      | _ => none⟩

end CharSet

end ClusterMonitor.Unicode

import ClusterMonitor.Unicode.CharSet

/-!
# Character tables

A table that gives some characters a replacement of one or more characters, stored as runs: a run
either shifts all its members by one distance, or gives them all the same replacement.
-/

namespace ClusterMonitor.Unicode

/-- A run of characters, every `step`-th one from `first` to `last`. -/
structure CharRun where
  first : Nat
  last : Nat
  step : Nat
  /-- Do the members move along with their replacements? -/
  shifts : Bool
  /-- The replacement of the first member. -/
  target : List Nat
deriving DecidableEq, Repr

namespace CharRun

def contains (r : CharRun) (code : Nat) : Bool :=
  r.first ≤ code && code ≤ r.last && (code - r.first) % r.step == 0

/-- The replacement of a member. -/
def replacement (r : CharRun) (code : Nat) : List Char :=
  if r.shifts then r.target.map fun t => Char.ofNat (t + (code - r.first))
  else r.target.map Char.ofNat

/-- The members that are replaced by these characters. -/
def sourcesOf (r : CharRun) (cs : List Char) : List Char :=
  if r.shifts then
    match r.target, cs with
    | [t], [c] =>
      if t ≤ c.toNat ∧ r.contains (r.first + (c.toNat - t)) then
        [Char.ofNat (r.first + (c.toNat - t))]
      else []
    | _, _ => []
  else if r.target.map Char.ofNat == cs then
    ((List.range (r.last + 1 - r.first)).filter fun i => i % r.step == 0).map fun i =>
      Char.ofNat (r.first + i)
  else []

end CharRun

/-- Runs of characters with their replacements. -/
structure CharMap where
  runs : List CharRun

namespace CharMap

/-- The replacement of a character. -/
def get? (m : CharMap) (c : Char) : Option (List Char) :=
  (m.runs.find? fun r => r.contains c.toNat).map fun r => r.replacement c.toNat

/-- The characters that are replaced by these characters. -/
def sourcesOf (m : CharMap) (cs : List Char) : List Char := m.runs.flatMap fun r => r.sourcesOf cs

private def targetOfHex (text : String) : List Nat := (text.splitOn ".").map natOfHex

private def runOfHex (shifts : Bool) (members target : String) : Option CharRun :=
  match members.splitOn "-" with
  | [first, last] => some ⟨natOfHex first, natOfHex last, 1, shifts, targetOfHex target⟩
  | [first] =>
    match first.splitOn "~" with
    | [first, last] => some ⟨natOfHex first, natOfHex last, 2, shifts, targetOfHex target⟩
    | _ => some ⟨natOfHex first, natOfHex first, 1, shifts, targetOfHex target⟩
  | _ => none

/-- Reads runs separated by blanks: `41-5A>61` shifts each member, `3B1~3B9>3B0` every second one,
`32-33=69.6A` gives all members the same replacement. -/
def ofHex (lines : List String) : CharMap :=
  ⟨lines.flatMap fun line =>
    (line.splitOn " ").filterMap fun text =>
      match text.splitOn ">" with
      | [members, target] => runOfHex true members target
      | _ =>
        match text.splitOn "=" with
        | [members, target] => runOfHex false members target
        | _ => none⟩

end CharMap

end ClusterMonitor.Unicode

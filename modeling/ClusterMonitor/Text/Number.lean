/-!
# Digits and numbers

`hexValue?` is the value of a digit in bases up to sixteen, `numberInBase?` the number that a run of
digits spells.
-/

namespace ClusterMonitor.Text

/-- The value of a hexadecimal digit. -/
def hexValue? (c : Char) : Option Nat :=
  if '0' ≤ c ∧ c ≤ '9' then some (c.toNat - 48)
  else if 'a' ≤ c ∧ c ≤ 'f' then some (c.toNat - 87)
  else if 'A' ≤ c ∧ c ≤ 'F' then some (c.toNat - 55)
  else none

/-- The number that digits of a base spell; nothing if one is no digit. -/
def numberInBase? (base : Nat) (cs : List Char) : Option Nat :=
  cs.foldlM (fun n c =>
    match hexValue? c with
    | some d => if d < base then some (n * base + d) else none
    | none => none) 0

end ClusterMonitor.Text

import ClusterMonitor.Decimal.Shortest

/-!
# Durations

A duration counts whole nanoseconds. `Duration.ofSeconds?` rounds a number of seconds to the nearest
nanosecond, ties to even.
-/

namespace ClusterMonitor

/-- A duration of whole nanoseconds. -/
structure Duration where
  nanoseconds : Nat
deriving DecidableEq, Repr

namespace Duration

/-- The nanoseconds of one second. -/
def perSecond : Nat := 1000000000

/-- The whole seconds. -/
def seconds (d : Duration) : Nat := d.nanoseconds / perSecond

/-- The nanoseconds beyond the whole seconds. -/
def subsecond (d : Duration) : Nat := d.nanoseconds % perSecond

def ofWholeSeconds (n : Nat) : Duration := ⟨n * perSecond⟩

/-- The quotient rounded to the nearest whole number, ties to even. -/
def roundedQuotient (num den : Nat) : Nat :=
  let quotient := num / den
  let twice := 2 * (num % den)
  if twice < den ∨ (twice = den ∧ quotient % 2 = 0) then quotient else quotient + 1

/-- A number of seconds as a duration: nothing for negative numbers, for what is no number, and for
durations of 2^64 seconds or more. -/
def ofSeconds? (x : Float) : Option Duration :=
  if x < 0.0 ∨ !x.isFinite then none
  else
    let b := Decimal.Binary.ofFloat x
    let n :=
      if 0 ≤ b.exponent then b.mantissa * Nat.pow 2 b.exponent.toNat * perSecond
      else roundedQuotient (b.mantissa * perSecond) (Nat.pow 2 b.exponent.natAbs)
    if n < Nat.pow 2 64 * perSecond then some ⟨n⟩ else none

end Duration

end ClusterMonitor

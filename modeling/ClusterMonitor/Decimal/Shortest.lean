/-!
# Shortest decimals of floats

Among all decimals that read back as a given float, the ones with the fewest digits are shortest,
and of those the nearest to the float is *the* shortest decimal.

* `Binary` — a non-negative float as mantissa and exponent of two.
* `Digits` — a decimal as digits and exponent of ten.
* `Binary.shortest` — tries 1, 2, … 17 digits. For each number of digits only the two neighbours of
  the value on that decimal grid can qualify, so two comparisons decide.
-/

namespace ClusterMonitor.Decimal

/-- The magnitude of a finite float: `mantissa * 2 ^ exponent`. -/
structure Binary where
  mantissa : Nat
  exponent : Int
deriving DecidableEq, Repr

/-- A decimal magnitude: `digits * 10 ^ exponent`. -/
structure Digits where
  digits : Nat
  exponent : Int
deriving DecidableEq, Repr

/-- The bits of a float below the sign: its magnitude, if the float is finite. -/
def Binary.ofFloat (x : Float) : Binary :=
  let bits := x.toBits.toNat % Nat.pow 2 63
  let fraction := bits % Nat.pow 2 52
  let field : Nat := bits / Nat.pow 2 52
  if field = 0 then ⟨fraction, -1074⟩ else ⟨Nat.pow 2 52 + fraction, (field : Int) - 1075⟩

/-- The sign bit of a float. -/
def isNegative (x : Float) : Bool := Nat.pow 2 63 ≤ x.toBits.toNat

/-- How many decimal digits a number has; none for zero. -/
def digitCount (n : Nat) : Nat := if n = 0 then 0 else (Nat.toDigits 10 n).length

/-- The power of ten of the first digit of `num / den`, for positive `num` and `den`. -/
def leadingExponent (num den : Nat) : Int :=
  if den ≤ num then (digitCount (num / den) : Int) - 1
  else -(digitCount ((den + num - 1) / num - 1) : Int)

/-- The reals that round to a float, in quarters of its unit over a common denominator. -/
structure Binary.Interval where
  value : Nat
  below : Nat
  above : Nat
  denominator : Nat
  closed : Bool

/-- Half a unit to each side, and only a quarter below where the next smaller float is nearer. The
ends belong to the interval when the mantissa is even. -/
def Binary.interval (b : Binary) : Binary.Interval :=
  let scale := Nat.pow 2 (b.exponent - 2).toNat
  let lower := if b.mantissa = Nat.pow 2 52 ∧ -1074 < b.exponent then 1 else 2
  { value := 4 * b.mantissa * scale
    below := (4 * b.mantissa - lower) * scale
    above := (4 * b.mantissa + 2) * scale
    denominator := Nat.pow 2 (2 - b.exponent).toNat
    closed := b.mantissa % 2 = 0 }

/-- The neighbour of the value on the grid of `10 ^ unit` that rounds to the float, if any; of two
the nearer, and of two equally near the even one. -/
def Binary.Interval.onGrid? (i : Binary.Interval) (unit : Int) : Option Nat :=
  let up := Nat.pow 10 (-unit).toNat
  let step := i.denominator * Nat.pow 10 unit.toNat
  let value := i.value * up
  let low := value / step
  let inside (d : Nat) : Bool :=
    if i.closed then i.below * up ≤ d * step && d * step ≤ i.above * up
    else i.below * up < d * step && d * step < i.above * up
  let toLow := value - low * step
  let toHigh := (low + 1) * step - value
  match inside low, inside (low + 1) with
  | true, true =>
    some (if toLow < toHigh ∨ (toLow = toHigh ∧ low % 2 = 0) then low else low + 1)
  | true, false => some low
  | false, true => some (low + 1)
  | false, false => none

/-- Moves trailing zeros of the digits into the exponent. -/
def Digits.normalize (d : Digits) : Digits :=
  let text := Nat.toDigits 10 d.digits
  let zeros := (text.reverse.takeWhile (· == '0')).length
  if d.digits = 0 then ⟨0, 0⟩ else ⟨d.digits / Nat.pow 10 zeros, d.exponent + zeros⟩

/-- The shortest decimal that reads back as the float; the nearest of those. -/
def Binary.shortest (b : Binary) : Digits :=
  if b.mantissa = 0 then ⟨0, 0⟩
  else
    let i := b.interval
    let lead := leadingExponent i.value i.denominator
    let attempt (count : Nat) : Option Digits :=
      let unit := lead - count + 1
      (i.onGrid? unit).map fun d => Digits.normalize ⟨d, unit⟩
    ((List.range 17).findSome? fun n => attempt (n + 1)).getD ⟨0, 0⟩

end ClusterMonitor.Decimal

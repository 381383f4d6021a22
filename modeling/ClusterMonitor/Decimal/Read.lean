import ClusterMonitor.Decimal.Shortest

/-!
# Reading floats from decimal text

* `nearest` — the float nearest to a decimal.
* `scaled` — the float obtained from a 64-bit significand by one multiplication or division by a
  power of ten. It is exact for short decimals and may be off in the last place for long ones; JSON
  texts are read this way.
* `floatOfText?` — reads a sign, digits with an optional point, and an optional exponent.
-/

namespace ClusterMonitor.Decimal

/-- The float nearest to `digits * 10 ^ exponent`, ties to even; an infinity when it is too large. -/
def nearest (digits : Nat) (exponent : Int) : Float :=
  let lead : Int := digitCount digits + exponent
  if digits = 0 ∨ lead < -400 then 0.0
  else if 400 < lead then 1.0 / 0.0
  else Float.ofScientific digits (exponent < 0) exponent.natAbs

/-- A power of ten with an exponent up to 308, rounded to the nearest float. -/
def powerOfTen (n : Nat) : Float := Float.ofScientific 1 false n

/-- `significand * 10 ^ exponent` by one rounding of the significand and one scaling step; nothing
when the result is too large for a float. -/
def scaled (significand : Nat) (exponent : Int) : Option Float :=
  let f := Float.ofNat significand
  if 0 ≤ exponent then
    if significand = 0 then some 0.0
    else if 308 < exponent then none
    else
      let r := f * powerOfTen exponent.toNat
      if r.isInf then none else some r
  else if -308 ≤ exponent then some (f / powerOfTen exponent.natAbs)
  else if -616 ≤ exponent then some (f / 1e308 / powerOfTen (exponent + 308).natAbs)
  else some 0.0

/-- The number that a run of decimal digits spells. -/
def natOfDigits (cs : List Char) : Nat :=
  cs.foldl (fun n c => 10 * n + (c.toNat - '0'.toNat)) 0

/-- The leading run of decimal digits and what follows it. -/
def spanDigits (cs : List Char) : List Char × List Char :=
  (cs.takeWhile Char.isDigit, cs.dropWhile Char.isDigit)

/-- Drops a sign; says whether it was a minus. -/
def splitSign : List Char → Bool × List Char
  | '-' :: rest => (true, rest)
  | '+' :: rest => (false, rest)
  | cs => (false, cs)

/-- Reads an exponent part that takes all of the text; no text is exponent zero. -/
def exponentOfText? : List Char → Option Int
  | [] => some 0
  | c :: cs =>
    if c = 'e' ∨ c = 'E' then
      let (minus, rest) := splitSign cs
      let (digits, tail) := spanDigits rest
      if digits.isEmpty ∨ !tail.isEmpty then none
      else
        let n : Int := natOfDigits digits
        some (if minus then -n else n)
    else none

/-- Reads a decimal float that takes all of the text: an optional sign, digits before or after an
optional point, and an optional exponent. -/
def floatOfText? (cs : List Char) : Option Float :=
  let (minus, rest) := splitSign cs
  let (whole, rest) := spanDigits rest
  let (fraction, rest) :=
    match rest with
    | '.' :: rest => spanDigits rest
    | _ => ([], rest)
  if whole.isEmpty ∧ fraction.isEmpty then none
  else
    (exponentOfText? rest).map fun exponent =>
      let r := nearest (natOfDigits (whole ++ fraction)) (exponent - fraction.length)
      if minus then -r else r

end ClusterMonitor.Decimal

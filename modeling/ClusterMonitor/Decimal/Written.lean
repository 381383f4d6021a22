import ClusterMonitor.Decimal.Shortest

/-!
# Written floats

How a float is written as text: the shortest digits, laid out by a `Layout`. The three layouts of
this library are those of JSON texts, of YAML texts and of running text in messages.
-/

namespace ClusterMonitor.Decimal

/-- The choices that turn digits into text. -/
structure Layout where
  /-- Exponents of the first digit that are written without an exponent part; all if absent. -/
  positional : Option (Int × Int)
  /-- Whole numbers end in `.0`. -/
  pointZero : Bool
  /-- Positive exponents carry a plus sign. -/
  plusSign : Bool
  infinity : String
  notANumber : String

/-- JSON texts: positional from 1e-5 up to 1e16, exponents with their sign. -/
def Layout.json : Layout := ⟨some (-5, 15), true, true, "null", "null"⟩

/-- YAML texts: positional from 1e-5 up to 1e16, exponents with a sign only when negative. -/
def Layout.yaml : Layout := ⟨some (-5, 15), true, false, ".inf", ".nan"⟩

/-- Messages: never an exponent, and whole numbers without a point. -/
def Layout.message : Layout := ⟨none, false, false, "inf", "NaN"⟩

/-- So many zeros; none for a negative number. -/
def zeros (n : Int) : String := String.ofList (List.replicate n.toNat '0')

/-- The digits without an exponent part. -/
def Layout.positionalText (l : Layout) (d : Digits) : String :=
  let text := toString d.digits
  let point : Int := text.length + d.exponent
  if 0 ≤ d.exponent then
    text ++ zeros d.exponent ++ (if l.pointZero then ".0" else "")
  else if 0 < point then
    String.ofList (text.toList.take point.toNat) ++ "." ++
      String.ofList (text.toList.drop point.toNat)
  else "0." ++ zeros (-point) ++ text

/-- The digits with one place before the point and an exponent part. -/
def Layout.exponentText (l : Layout) (d : Digits) : String :=
  let text := toString d.digits
  let exponent : Int := text.length + d.exponent - 1
  let fraction := text.toList.drop 1
  String.ofList (text.toList.take 1) ++ (if fraction.isEmpty then "" else ".") ++
    String.ofList fraction ++ "e" ++
    (if l.plusSign ∧ 0 ≤ exponent then "+" else "") ++ toString exponent

/-- The text of a magnitude. -/
def Layout.magnitude (l : Layout) (d : Digits) : String :=
  let lead : Int := (toString d.digits).length + d.exponent - 1
  match l.positional with
  | none => l.positionalText d
  | some (low, high) =>
    if d.digits = 0 ∨ (low ≤ lead ∧ lead ≤ high) then l.positionalText d else l.exponentText d

/-- The text of a float. -/
def Layout.write (l : Layout) (x : Float) : String :=
  let sign := if isNegative x then "-" else ""
  if x.isNaN then l.notANumber
  else if x.isInf then sign ++ l.infinity
  else sign ++ l.magnitude (Binary.ofFloat x).shortest

end ClusterMonitor.Decimal

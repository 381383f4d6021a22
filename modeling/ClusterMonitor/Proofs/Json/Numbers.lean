import ClusterMonitor.Json.Reader
import ClusterMonitor.Json.Writer
import ClusterMonitor.Proofs.Decode.Values
import Mathlib.Data.List.DropRight
import Mathlib.Data.List.TakeWhile
import Mathlib.Data.Option.Basic

/-!
# Numbers in JSON texts

A number is read in parts: a sign, digits, a fraction and an exponent. What may follow a number in a
text does not go on with any of its parts, so the number is read in the same way whatever follows it.
An integer is read back as it was written. A float is written as digits with a point or an exponent,
and is always read as a number again, which need not be the same float: the reader scales the digits
with one rounding, and comes out next to the float for some long decimals.

* `Json.readNumber?_eq` — the parts of a number.
* `Json.readNumber?_int` — integers.
* `Json.rereadFloat?` — the float that the reader makes of the text of a float.
* `Json.readNumber?_float` — the text of a float, whatever follows it.
* `Json.beginsNumber_float` — how the text of a float begins.
-/

namespace ClusterMonitor.Json

open Decimal (spanDigits splitSign)

/-! ## Numbers in parts -/

/-- The sign of a number, and what follows. -/
def signOf (cs : List Char) : Bool × List Char :=
  if cs.head? = some '-' then (true, cs.tail) else (false, cs)

/-- The digits behind a point, if there is one, and what follows. -/
def readFraction? (cs : List Char) : Option (List Char × List Char) :=
  if cs.head? = some '.' then
    if (spanDigits cs.tail).1.isEmpty then none else some (spanDigits cs.tail)
  else some ([], cs)

/-- The number that is made of its parts. -/
def valueOfParts? (minus : Bool) (whole fraction : List Char) (exponent : Option Int) :
    Option Value :=
  if fraction = [] ∧ exponent = none then wholeNumber minus whole
  else floatOfParts minus whole fraction (exponent.getD 0)

/-- A number behind its sign, and what follows. -/
def readUnsigned? (minus : Bool) (cs : List Char) : Option (Value × List Char) := do
  let whole := spanDigits cs
  guard (!whole.1.isEmpty)
  guard (whole.1.length = 1 ∨ whole.1.head? ≠ some '0')
  let fraction ← readFraction? whole.2
  let exponent ← readExponent? fraction.2
  let v ← valueOfParts? minus whole.1 fraction.1 exponent.1
  return (v, exponent.2)

/-- A number is read as its sign, and what stands behind it. -/
theorem readNumber?_eq (cs : List Char) :
    readNumber? cs = readUnsigned? (signOf cs).1 (signOf cs).2 := by
  unfold readNumber?
  split
  rename_i minus rest heq
  have hsign : signOf cs = (minus, rest) := by
    rw [← heq]
    cases cs with
    | nil => rfl
    | cons c cs =>
      by_cases hc : c = '-'
      · subst hc
        rfl
      · simp [signOf, hc]
  simp only [hsign]
  unfold readUnsigned?
  simp only [Option.bind_eq_bind]
  -- the same digits, so that only the fraction is left to compare
  congr
  funext _
  congr
  funext _
  cases (spanDigits rest).2 with
  | nil =>
    refine Option.bind_congr fun fraction hfraction => ?_
    cases hfraction
    refine Option.bind_congr fun exponent _ => ?_
    cases exponent.1 <;> rfl
  | cons c tail =>
    by_cases hc : c = '.'
    · subst hc
      cases hdigits : (spanDigits tail).1 with
      | nil => simp [readFraction?, hdigits]
      | cons d digits =>
        have hread : readFraction? ('.' :: tail) = some (spanDigits tail) := by
          simp [readFraction?, hdigits]
        simp [hread, hdigits, valueOfParts?]
    · have hread : readFraction? (c :: tail) = some ([], c :: tail) := by
        simp [readFraction?, hc]
      simp only [hread, hc, List.cons.injEq, false_and, false_implies, implies_true,
        Option.bind_some]
      refine Option.bind_congr fun exponent _ => ?_
      cases exponent.1 <;> rfl

/-! ## Text behind a number -/

/-- A text that starts like this does not go on with the number before it. -/
def EndsNumber (rest : List Char) : Prop :=
  ∀ c, rest.head? = some c → c.isDigit = false ∧ c ≠ '.' ∧ c ≠ 'e' ∧ c ≠ 'E'

theorem endsNumber_nil : EndsNumber [] := nofun

theorem endsNumber_comma (rest : List Char) : EndsNumber (',' :: rest) := by
  rintro c ⟨⟩
  decide

theorem endsNumber_bracket (rest : List Char) : EndsNumber (']' :: rest) := by
  rintro c ⟨⟩
  decide

theorem endsNumber_brace (rest : List Char) : EndsNumber ('}' :: rest) := by
  rintro c ⟨⟩
  decide

theorem splitSign_append (c : Char) (cs rest : List Char) :
    splitSign (c :: cs ++ rest) = ((splitSign (c :: cs)).1, (splitSign (c :: cs)).2 ++ rest) := by
  by_cases hminus : c = '-'
  · subst hminus
    rfl
  · by_cases hplus : c = '+'
    · subst hplus
      rfl
    · simp [splitSign, hminus, hplus]

section Append

variable {rest : List Char} (hrest : EndsNumber rest)

include hrest

/-- Digits end before what ends a number. -/
theorem spanDigits_append (cs : List Char) :
    spanDigits (cs ++ rest) = ((spanDigits cs).1, (spanDigits cs).2 ++ rest) := by
  unfold spanDigits
  induction cs with
  | nil =>
    cases rest with
    | nil => rfl
    | cons c rest =>
      obtain ⟨hdigit, -⟩ := hrest c rfl
      simp [hdigit]
  | cons d cs ih =>
    obtain ⟨htake, hdrop⟩ := Prod.mk.inj ih
    cases hd : d.isDigit with
    | true => simp [hd, htake, hdrop]
    | false => simp [hd]

theorem readFraction?_append {cs fraction after : List Char}
    (h : readFraction? cs = some (fraction, after)) :
    readFraction? (cs ++ rest) = some (fraction, after ++ rest) := by
  cases cs with
  | nil =>
    cases h
    cases rest with
    | nil => rfl
    | cons c rest =>
      obtain ⟨-, hpoint, -⟩ := hrest c rfl
      simp [readFraction?, hpoint]
  | cons c cs =>
    by_cases hc : c = '.'
    · subst hc
      simp only [readFraction?, List.cons_append, List.head?_cons, List.tail_cons, if_true,
        spanDigits_append hrest] at h ⊢
      cases hdigits : (spanDigits cs).1.isEmpty with
      | true => simp [hdigits] at h
      | false =>
        simp only [hdigits] at h ⊢
        cases h
        rfl
    · have hnone (cs : List Char) : readFraction? (c :: cs) = some ([], c :: cs) := by
        simp [readFraction?, hc]
      rw [hnone] at h
      cases h
      exact hnone (cs ++ rest)

theorem readExponent?_append {cs after : List Char} {exponent : Option Int}
    (h : readExponent? cs = some (exponent, after)) :
    readExponent? (cs ++ rest) = some (exponent, after ++ rest) := by
  cases cs with
  | nil =>
    cases h
    cases rest with
    | nil => rfl
    | cons c rest =>
      obtain ⟨-, -, he, hE⟩ := hrest c rfl
      simp [readExponent?, he, hE]
  | cons c cs =>
    by_cases hc : c = 'e' ∨ c = 'E'
    · cases cs with
      | nil => simp [readExponent?, hc, splitSign, spanDigits] at h
      | cons d ds =>
        have hsign := splitSign_append d ds rest
        rw [List.cons_append] at hsign
        simp only [readExponent?, List.cons_append, if_pos hc, hsign, spanDigits_append hrest]
          at h ⊢
        cases hdigits : (spanDigits (splitSign (d :: ds)).2).1.isEmpty with
        | true => simp [hdigits] at h
        | false =>
          simp only [hdigits] at h ⊢
          cases h
          rfl
    · simp only [readExponent?, List.cons_append, if_neg hc] at h ⊢
      cases h
      rfl

theorem readUnsigned?_append {minus : Bool} {cs after : List Char} {v : Value}
    (h : readUnsigned? minus cs = some (v, after)) :
    readUnsigned? minus (cs ++ rest) = some (v, after ++ rest) := by
  simp only [readUnsigned?, Option.bind_eq_bind, Option.bind_eq_some_iff] at h
  obtain ⟨_, hsome, _, hzero, ⟨fraction, afterFraction⟩, hfraction, ⟨exponent, afterExponent⟩,
    hexponent, w, hw, hv⟩ := h
  cases hv
  simp only [readUnsigned?, spanDigits_append hrest, Option.bind_eq_bind, hsome, hzero,
    Option.bind_some, readFraction?_append hrest hfraction, readExponent?_append hrest hexponent, hw]
  rfl

/-- What ends a number can stand behind it. -/
theorem readNumber?_append {cs after : List Char} {v : Value}
    (h : readNumber? cs = some (v, after)) :
    readNumber? (cs ++ rest) = some (v, after ++ rest) := by
  rw [readNumber?_eq] at h ⊢
  have hsign : signOf (cs ++ rest) = ((signOf cs).1, (signOf cs).2 ++ rest) := by
    cases cs with
    | nil => cases h
    | cons c cs =>
      by_cases hc : c = '-'
      · subst hc
        rfl
      · simp [signOf, hc]
  rw [hsign]
  exact readUnsigned?_append hrest h

end Append

/-! ## Integers -/

theorem natOfDigits_toDigits (n : Nat) : Decimal.natOfDigits (Nat.toDigits 10 n) = n :=
  Nat.ofDigitChars_ten_toDigits

theorem isDigit_of_mem_toDigits {n : Nat} {c : Char} (h : c ∈ Nat.toDigits 10 n) :
    c.isDigit = true :=
  Nat.isDigit_of_mem_toDigits (by decide) (by decide) h

/-- Digits are taken up to what is no digit. -/
theorem spanDigits_of_digits {digits after : List Char} (hdigits : ∀ c ∈ digits, c.isDigit = true)
    (hafter : ∀ c, after.head? = some c → c.isDigit = false) :
    spanDigits (digits ++ after) = (digits, after) := by
  unfold spanDigits
  rw [List.takeWhile_append_of_pos hdigits, List.dropWhile_append_of_pos hdigits]
  cases after with
  | nil => simp
  | cons c after => simp [hafter c rfl]

theorem spanDigits_toDigits (n : Nat) : spanDigits (Nat.toDigits 10 n) = (Nat.toDigits 10 n, []) := by
  have hspan : spanDigits (Nat.toDigits 10 n ++ []) = (Nat.toDigits 10 n, []) :=
    spanDigits_of_digits (fun _ => isDigit_of_mem_toDigits) nofun
  rwa [List.append_nil] at hspan

theorem head?_toDigits_ne_zero {n : Nat} (h : 0 < n) : (Nat.toDigits 10 n).head? ≠ some '0' := by
  have hdigit : ∀ d < 10, 0 < d → d.digitChar ≠ '0' := by decide
  induction n using Nat.strongRecOn with
  | ind n ih =>
    by_cases hn : n < 10
    · rw [Nat.toDigits_of_lt_base hn]
      simpa using hdigit n hn h
    · -- the first digit is that of a tenth of the number
      rw [Nat.toDigits_of_base_le (by decide) (by omega), List.head?_append_of_ne_nil _
        Nat.toDigits_ne_nil]
      exact ih (n / 10) (by omega) (by omega)

/-- Zero is written with one digit, and no other number begins with a zero. -/
theorem toDigits_zero_or (n : Nat) :
    (Nat.toDigits 10 n).length = 1 ∨ (Nat.toDigits 10 n).head? ≠ some '0' := by
  rcases Nat.eq_zero_or_pos n with rfl | hpos
  · exact Or.inl rfl
  · exact Or.inr (head?_toDigits_ne_zero hpos)

/-- The digits of a natural number are read as this number, with a sign or without. -/
theorem readUnsigned?_toDigits {minus : Bool} {n : Nat} {v : Value}
    (hv : wholeNumber minus (Nat.toDigits 10 n) = some v) :
    readUnsigned? minus (Nat.toDigits 10 n) = some (v, []) := by
  have hsome : (Nat.toDigits 10 n).isEmpty = false := by
    simp [Nat.toDigits_ne_nil]
  simp [readUnsigned?, spanDigits_toDigits, hsome, toDigits_zero_or n, readFraction?, readExponent?,
    valueOfParts?, hv]

theorem signOf_toDigits (n : Nat) : signOf (Nat.toDigits 10 n) = (false, Nat.toDigits 10 n) := by
  cases hdigits : Nat.toDigits 10 n with
  | nil => rfl
  | cons c cs =>
    have hc : c.isDigit = true := isDigit_of_mem_toDigits (n := n) (by simp [hdigits])
    have hne : c ≠ '-' := by
      rintro rfl
      cases hc
    simp [signOf, hne]

/-- An integer with 64 bits is read back from its text. -/
theorem readNumber?_int {n : Int} (h : (Value.int n).Fits) :
    readNumber? (toString n).toList = some (.int n, []) := by
  have hlow : -9223372036854775808 ≤ n := h.1
  have hhigh : n ≤ 18446744073709551615 := h.2
  rw [readNumber?_eq]
  cases n with
  | ofNat k =>
    have htext : (toString (Int.ofNat k)).toList = Nat.toDigits 10 k := Nat.toList_repr
    have hk : k ≤ largestSignificand := by
      have : largestSignificand = 18446744073709551615 := rfl
      rw [Int.ofNat_eq_natCast] at hhigh
      omega
    rw [htext, signOf_toDigits]
    refine readUnsigned?_toDigits ?_
    simp [wholeNumber, natOfDigits_toDigits, hk]
  | negSucc k =>
    have htext : (toString (Int.negSucc k)).toList = '-' :: Nat.toDigits 10 (k + 1) := by
      have hrepr : toString (Int.negSucc k) = "-" ++ (k + 1).repr := rfl
      rw [hrepr, String.toList_append, Nat.toList_repr]
      rfl
    have hk : 0 < k + 1 ∧ k + 1 ≤ Nat.pow 2 63 := by
      have : Nat.pow 2 63 = 9223372036854775808 := rfl
      omega
    have hsign : signOf ('-' :: Nat.toDigits 10 (k + 1)) = (true, Nat.toDigits 10 (k + 1)) := rfl
    have hint : -((k + 1 : Nat) : Int) = Int.negSucc k := rfl
    rw [htext, hsign]
    refine readUnsigned?_toDigits ?_
    simp only [wholeNumber, natOfDigits_toDigits, if_true, if_pos hk, hint]

/-! ## Floats -/

/-- The text is taken apart as a number, and nothing of it is left. -/
structure HasParts (cs whole fraction : List Char) (exponent : Option Int) : Prop where
  whole_ne_nil : whole ≠ []
  zero : whole.length = 1 ∨ whole.head? ≠ some '0'
  parts : ∃ afterWhole afterFraction, spanDigits cs = (whole, afterWhole) ∧
    readFraction? afterWhole = some (fraction, afterFraction) ∧
      readExponent? afterFraction = some (exponent, [])

/-- A text with these parts is read as the value that they make, whatever follows it. -/
theorem HasParts.readUnsigned? {cs whole fraction rest : List Char} {exponent : Option Int}
    (h : HasParts cs whole fraction exponent) (hrest : EndsNumber rest) (minus : Bool) :
    readUnsigned? minus (cs ++ rest) =
      (valueOfParts? minus whole fraction exponent).map fun v => (v, rest) := by
  obtain ⟨afterWhole, afterFraction, hwhole, hfraction, hexponent⟩ := h.parts
  have hsome : whole.isEmpty = false := by
    simpa using h.whole_ne_nil
  have hexponentRest := readExponent?_append hrest hexponent
  cases hvalue : valueOfParts? minus whole fraction exponent <;>
    simp [Json.readUnsigned?, spanDigits_append hrest, hwhole, hsome, h.zero,
      readFraction?_append hrest hfraction, hexponentRest, hvalue]

/-- Digits with a point between them, and an exponent part if there is one. -/
theorem hasParts_of_point {whole fraction e : List Char} {exponent : Option Int}
    (hwhole : ∀ c ∈ whole, c.isDigit = true) (hne : whole ≠ [])
    (hzero : whole.length = 1 ∨ whole.head? ≠ some '0')
    (hfraction : ∀ c ∈ fraction, c.isDigit = true) (hfractionNe : fraction ≠ [])
    (he : readExponent? e = some (exponent, [])) (hhead : ∀ c, e.head? = some c → c.isDigit = false) :
    HasParts (whole ++ '.' :: (fraction ++ e)) whole fraction exponent := by
  refine ⟨hne, hzero, '.' :: (fraction ++ e), e, ?_, ?_, he⟩
  · exact spanDigits_of_digits hwhole (by simp)
  · have hsome : fraction.isEmpty = false := by
      simpa using hfractionNe
    simp [readFraction?, spanDigits_of_digits hfraction hhead, hsome]

/-- Digits with an exponent part and no point. -/
theorem hasParts_of_exponent {whole e : List Char} {exponent : Option Int}
    (hwhole : ∀ c ∈ whole, c.isDigit = true) (hne : whole ≠ [])
    (hzero : whole.length = 1 ∨ whole.head? ≠ some '0')
    (he : readExponent? e = some (exponent, []))
    (hhead : ∀ c, e.head? = some c → c.isDigit = false ∧ c ≠ '.') :
    HasParts (whole ++ e) whole [] exponent := by
  refine ⟨hne, hzero, e, e, spanDigits_of_digits hwhole fun c hc => (hhead c hc).1, ?_, he⟩
  have hpoint : e.head? ≠ some '.' := fun h => (hhead '.' h).2 rfl
  simp [readFraction?, hpoint]

/-- An exponent part is read as the number after its sign. -/
theorem readExponent?_signed {sign : Char} (hsign : sign = '+' ∨ sign = '-') (n : Nat) :
    ∃ x, readExponent? ('e' :: sign :: Nat.toDigits 10 n) = some (some x, []) := by
  have hsome : (Nat.toDigits 10 n).isEmpty = false := by
    simp [Nat.toDigits_ne_nil]
  rcases hsign with rfl | rfl
  · exact ⟨_, by simp [readExponent?, splitSign, spanDigits_toDigits, hsome]; rfl⟩
  · exact ⟨_, by simp [readExponent?, splitSign, spanDigits_toDigits, hsome]; rfl⟩

/-- The exponent of a written float has a sign, whether it is negative or not. -/
theorem exists_sign (exponent : Int) :
    ∃ sign, (sign = '+' ∨ sign = '-') ∧
      ((if Decimal.Layout.json.plusSign ∧ 0 ≤ exponent then "+" else "") ++
        toString exponent).toList = sign :: Nat.toDigits 10 exponent.natAbs := by
  rw [Int.toString_eq_repr, Int.repr_eq_if]
  by_cases hsign : 0 ≤ exponent
  · have hnat : exponent.toNat = exponent.natAbs := by omega
    exact ⟨'+', Or.inl rfl, by simp [Decimal.Layout.json, hsign, hnat, Nat.toList_repr]⟩
  · have hnat : (-exponent).toNat = exponent.natAbs := by omega
    exact ⟨'-', Or.inr rfl, by simp [Decimal.Layout.json, hsign, hnat, Nat.toList_repr]⟩

/-- Digits that are zero have no exponent. -/
def Normal (d : Decimal.Digits) : Prop := d.digits = 0 → d.exponent = 0

/-- A number is not smaller than the power of ten that its last zeros make. -/
theorem pow_zeros_le {n : Nat} (h : 0 < n) :
    Nat.pow 10 ((Nat.toDigits 10 n).reverse.takeWhile (· == '0')).length ≤ n := by
  have hdigit : ∀ d < 10, d ≠ 0 → d.digitChar ≠ '0' := by decide
  induction n using Nat.strongRecOn with
  | ind n ih =>
    have hdigits : Nat.toDigits 10 n =
        (if n < 10 then [] else Nat.toDigits 10 (n / 10)) ++ [(n % 10).digitChar] := by
      split
      · rename_i hlt
        rw [Nat.toDigits_of_lt_base hlt, Nat.mod_eq_of_lt hlt]
        rfl
      · exact Nat.toDigits_of_base_le (by decide) (by omega)
    rw [hdigits, List.reverse_append, List.reverse_singleton, List.singleton_append]
    by_cases hlast : n % 10 = 0
    · -- one zero more than a tenth of the number has
      have hten := ih (n / 10) (by omega) (by omega)
      have hlarge : ¬ n < 10 := by omega
      have hzero : (n % 10).digitChar = '0' := by rw [hlast]; rfl
      rw [if_neg hlarge, hzero, List.takeWhile_cons_of_pos (by rfl), List.length_cons]
      exact (Nat.mul_le_mul_right 10 hten).trans (by omega)
    · have hne : ((n % 10).digitChar == '0') = false := by
        simpa using hdigit (n % 10) (by omega) hlast
      rw [List.takeWhile_cons_of_neg (by simp [hne])]
      exact h

/-- Once the zeros behind its digits are moved to its exponent, a number that is zero has none. -/
theorem normal_normalize (d : Decimal.Digits) : Normal d.normalize := by
  intro hzero
  unfold Decimal.Digits.normalize at hzero ⊢
  by_cases hdigits : d.digits = 0
  · simp [hdigits]
  · -- the digits keep a part that is no zero
    have hle := pow_zeros_le (Nat.pos_of_ne_zero hdigits)
    have hpos := Nat.div_pos hle (Nat.pow_pos (by decide))
    simp only [hdigits, if_false] at hzero
    exact absurd hzero (Nat.ne_of_gt hpos)

/-- The shortest digits of a float have no exponent if they are zero. -/
theorem normal_shortest (b : Decimal.Binary) : Normal b.shortest := by
  have hzero : Normal ⟨0, 0⟩ := fun _ => rfl
  unfold Decimal.Binary.shortest
  split
  · exact hzero
  · dsimp only
    cases hfound : (List.range 17).findSome? _ with
    | none => exact hzero
    | some d =>
      obtain ⟨n, -, hn⟩ := List.exists_of_findSome?_eq_some hfound
      obtain ⟨digits, -, rfl⟩ := Option.map_eq_some_iff.mp hn
      exact normal_normalize _

section Written

variable {d : Decimal.Digits}

theorem toList_toString (n : Nat) : (toString n).toList = Nat.toDigits 10 n := by
  rw [Nat.toString_eq_repr, Nat.toList_repr]

/-- The digits of a float without an exponent part are taken apart at their point. -/
theorem exists_hasParts_positionalText (hd : Normal d) :
    ∃ whole fraction, fraction ≠ [] ∧
      HasParts (Decimal.Layout.json.positionalText d).toList whole fraction none := by
  have hdigits : ∀ c ∈ Nat.toDigits 10 d.digits, c.isDigit = true := fun c =>
    isDigit_of_mem_toDigits
  have hzeros (n : Int) : (Decimal.zeros n).toList = List.replicate n.toNat '0' := by
    simp [Decimal.zeros]
  have hzerosDigits (n : Int) : ∀ c ∈ List.replicate n.toNat '0', c.isDigit = true := by
    intro c hc
    obtain ⟨-, rfl⟩ := List.mem_replicate.mp hc
    rfl
  have hnone : readExponent? [] = some (none, []) := rfl
  have hlength : (toString d.digits).length = (Nat.toDigits 10 d.digits).length := by
    rw [← String.length_toList, toList_toString]
  have hpoint {whole fraction : List Char} (hwhole : ∀ c ∈ whole, c.isDigit = true)
      (hne : whole ≠ []) (hzero : whole.length = 1 ∨ whole.head? ≠ some '0')
      (hfraction : ∀ c ∈ fraction, c.isDigit = true) (hfractionNe : fraction ≠ []) :
      HasParts (whole ++ '.' :: fraction) whole fraction none := by
    simpa using hasParts_of_point hwhole hne hzero hfraction hfractionNe hnone (by simp)
  -- where the number is not zero, its digits do not begin with a zero
  have hhead (hpos : d.digits ≠ 0) : (Nat.toDigits 10 d.digits).head? ≠ some '0' :=
    head?_toDigits_ne_zero (Nat.pos_of_ne_zero hpos)
  simp only [Decimal.Layout.positionalText]
  split
  · -- a whole number, with zeros behind its digits
    refine ⟨Nat.toDigits 10 d.digits ++ List.replicate d.exponent.toNat '0', ['0'], by simp, ?_⟩
    have htext : (toString d.digits ++ Decimal.zeros d.exponent ++
        (if Decimal.Layout.json.pointZero = true then ".0" else "")).toList =
          (Nat.toDigits 10 d.digits ++ List.replicate d.exponent.toNat '0') ++ '.' :: ['0'] := by
      rw [String.toList_append, String.toList_append, toList_toString, hzeros]
      rfl
    rw [htext]
    refine hpoint (List.forall_mem_append.mpr ⟨hdigits, hzerosDigits _⟩) (by simp) ?_ (by simp)
      (by simp)
    by_cases hzero : d.digits = 0
    · left
      simp [hzero, hd hzero]
    · right
      rw [List.head?_append_of_ne_nil _ Nat.toDigits_ne_nil]
      exact hhead hzero
  · rename_i hnegative
    have hpos : d.digits ≠ 0 := fun hzero => hnegative (by simp [hd hzero])
    split
    · -- the point stands among the digits
      rename_i hplace
      rw [hlength] at hplace ⊢
      have htext (k : Nat) : (String.ofList ((toString d.digits).toList.take k) ++ "." ++
          String.ofList ((toString d.digits).toList.drop k)).toList =
            (Nat.toDigits 10 d.digits).take k ++ '.' :: (Nat.toDigits 10 d.digits).drop k := by
        simp
      rw [htext]
      have hdrop : (Nat.toDigits 10 d.digits).drop
          ((Nat.toDigits 10 d.digits).length + d.exponent : Int).toNat ≠ [] := by
        rw [Ne, List.drop_eq_nil_iff]
        omega
      refine ⟨_, _, hdrop, hpoint (fun c hc => hdigits c (List.mem_of_mem_take hc)) ?_ ?_
        (fun c hc => hdigits c (List.mem_of_mem_drop hc)) hdrop⟩
      · rw [Ne, List.take_eq_nil_iff]
        simp only [Nat.toDigits_ne_nil, or_false]
        omega
      · right
        rw [List.head?_take, if_neg (by omega)]
        exact hhead hpos
    · -- the point stands before the digits
      refine ⟨['0'], List.replicate
        (-((toString d.digits).length + d.exponent : Int)).toNat '0' ++ Nat.toDigits 10 d.digits,
        by simp, ?_⟩
      have htext (n : Int) : ("0." ++ Decimal.zeros n ++ toString d.digits).toList =
          ['0'] ++ '.' :: (List.replicate n.toNat '0' ++ Nat.toDigits 10 d.digits) := by
        rw [String.toList_append, String.toList_append, toList_toString, hzeros]
        rfl
      rw [htext]
      exact hpoint (by simp) (by simp) (Or.inl rfl)
        (List.forall_mem_append.mpr ⟨hzerosDigits _, hdigits⟩) (by simp)

/-- The digits of a float with an exponent part are taken apart at the point, if there is one, and at
the exponent. -/
theorem exists_hasParts_exponentText (d : Decimal.Digits) :
    ∃ whole fraction x,
      HasParts (Decimal.Layout.json.exponentText d).toList whole fraction (some x) := by
  have hdigits : ∀ c ∈ Nat.toDigits 10 d.digits, c.isDigit = true := fun c =>
    isDigit_of_mem_toDigits
  obtain ⟨sign, hsign, htail⟩ :=
    exists_sign ((toString d.digits).length + d.exponent - 1)
  obtain ⟨x, hx⟩ := readExponent?_signed hsign
    ((toString d.digits).length + d.exponent - 1 : Int).natAbs
  obtain ⟨first, more, hfirst⟩ := List.exists_cons_of_ne_nil (Nat.toDigits_ne_nil (b := 10) (n := d.digits))
  have hwhole : ∀ c ∈ [first], c.isDigit = true := by
    simpa using hdigits first (by simp [hfirst])
  have hmore : ∀ c ∈ more, c.isDigit = true := fun c hc => hdigits c (by simp [hfirst, hc])
  refine ⟨[first], more, x, ?_⟩
  have htext : (Decimal.Layout.json.exponentText d).toList =
      [first] ++ ((if more = [] then [] else ['.']) ++ more ++
        'e' :: sign ::
          Nat.toDigits 10 ((toString d.digits).length + d.exponent - 1 : Int).natAbs) := by
    have hlist : (toString d.digits).toList = first :: more := by
      rw [toList_toString, hfirst]
    simp only [Decimal.Layout.exponentText, hlist, List.drop_succ_cons, List.drop_zero,
      List.take_succ_cons, List.take_zero, String.append_assoc] at htail ⊢
    simp only [String.toList_append, String.toList_ofList] at htail ⊢
    rw [htail]
    by_cases hmore : more = [] <;> simp [hmore]
  rw [htext]
  by_cases hpoint : more = []
  · subst hpoint
    exact hasParts_of_exponent hwhole (by simp) (Or.inl rfl) hx (by simp)
  · rw [if_neg hpoint, List.append_assoc]
    exact hasParts_of_point hwhole (by simp) (Or.inl rfl) hmore hpoint hx (by simp)

end Written

/-- Digits with a fraction or an exponent are read as a float, if they are not too large for one. -/
theorem exists_floatOfParts (minus : Bool) {whole fraction : List Char} {exponent : Option Int}
    (h : fraction ≠ [] ∨ exponent ≠ none) :
    ∃ x : Option Float, valueOfParts? minus whole fraction exponent = x.map Value.float := by
  have hparts : ¬ (fraction = [] ∧ exponent = none) := not_and_or.mpr h
  rw [valueOfParts?, if_neg hparts, floatOfParts]
  exact ⟨_, (Option.map_map _ _ _).symm⟩

/-- A finite float is written with a sign, if it has one, and its magnitude. -/
theorem write_of_isFinite {x : Float} (hx : x.isFinite = true) :
    (Decimal.Layout.json.write x).toList = (if Decimal.isNegative x then ['-'] else []) ++
      (Decimal.Layout.json.magnitude (Decimal.Binary.ofFloat x).shortest).toList := by
  have hnumber : x.isNaN = false ∧ x.isInf = false := by
    unfold Float.isFinite Float.Model.isFinite at hx
    unfold Float.isNaN Float.Model.isNaN Float.isInf Float.Model.isInf
    cases hunpack : x.toModel.unpack with
    | zero | finite => exact ⟨rfl, rfl⟩
    | notANumber | infinity =>
      rw [hunpack] at hx
      cases hx
  simp only [Decimal.Layout.write, hnumber.1, hnumber.2, Bool.false_eq_true, if_false,
    String.toList_append]
  split <;> rfl

/-- The digits of a float are those of a number with a fraction or an exponent. -/
theorem exists_hasParts_magnitude {d : Decimal.Digits} (hd : Normal d) :
    ∃ whole fraction exponent, (fraction ≠ [] ∨ exponent ≠ none) ∧
      HasParts (Decimal.Layout.json.magnitude d).toList whole fraction exponent := by
  obtain ⟨whole, fraction, hfraction, hpositional⟩ := exists_hasParts_positionalText hd
  obtain ⟨whole', fraction', exponent, hexponent⟩ := exists_hasParts_exponentText d
  simp only [Decimal.Layout.magnitude, Decimal.Layout.json] at *
  split
  · exact ⟨whole, fraction, none, Or.inl hfraction, hpositional⟩
  · exact ⟨whole', fraction', some exponent, Or.inr nofun, hexponent⟩

/-- A number without a sign begins with a digit. -/
theorem HasParts.exists_cons {cs whole fraction : List Char} {exponent : Option Int}
    (h : HasParts cs whole fraction exponent) : ∃ c rest, cs = c :: rest ∧ c.isDigit = true := by
  obtain ⟨afterWhole, _, hwhole, -, -⟩ := h.parts
  have hne : cs.takeWhile Char.isDigit ≠ [] := by
    have : cs.takeWhile Char.isDigit = whole := congrArg Prod.fst hwhole
    exact this ▸ h.whole_ne_nil
  cases cs with
  | nil => exact absurd rfl hne
  | cons c cs =>
    refine ⟨c, cs, rfl, ?_⟩
    by_contra hc
    exact hne (List.takeWhile_cons_of_neg hc)

/-- Its parts are found without a sign. -/
theorem HasParts.signOf {cs whole fraction : List Char} {exponent : Option Int}
    (h : HasParts cs whole fraction exponent) (rest : List Char) :
    signOf (cs ++ rest) = (false, cs ++ rest) := by
  obtain ⟨c, cs, rfl, hdigit⟩ := h.exists_cons
  have hminus : c ≠ '-' := by
    rintro rfl
    exact absurd hdigit (by decide)
  simp [Json.signOf, hminus]

/-- The float that is read, if it is one and nothing follows it. -/
def wholeFloat? : Option (Value × List Char) → Option Float
  | some (.float x, []) => some x
  | _ => none

/-- The float that the reader makes of the text of a float; nothing where it takes the number that it
has read for too large. -/
def rereadFloat? (x : Float) : Option Float :=
  wholeFloat? (readNumber? (Decimal.Layout.json.write x).toList)

/-- A finite float has the text of a number, which is read in one way whatever follows it. -/
theorem readNumber?_float {x : Float} (hx : x.isFinite = true) {rest : List Char}
    (hrest : EndsNumber rest) :
    readNumber? ((Decimal.Layout.json.write x).toList ++ rest) =
      (rereadFloat? x).map fun y => (.float y, rest) := by
  obtain ⟨whole, fraction, exponent, hfloat, hparts⟩ :=
    exists_hasParts_magnitude (normal_shortest (Decimal.Binary.ofFloat x))
  obtain ⟨read, hread⟩ : ∃ read : Option Float, ∀ rest, EndsNumber rest →
      readNumber? ((Decimal.Layout.json.write x).toList ++ rest) =
        read.map fun y => (.float y, rest) := by
    obtain ⟨read, hread⟩ : ∃ read : Option Float,
        valueOfParts? (Decimal.isNegative x) whole fraction exponent = read.map Value.float :=
      exists_floatOfParts _ hfloat
    refine ⟨read, fun rest hrest => ?_⟩
    have hsign : signOf ((Decimal.Layout.json.write x).toList ++ rest) =
        (Decimal.isNegative x,
          (Decimal.Layout.json.magnitude (Decimal.Binary.ofFloat x).shortest).toList ++ rest) := by
      rw [write_of_isFinite hx]
      cases Decimal.isNegative x with
      | true => rfl
      | false => exact hparts.signOf rest
    rw [readNumber?_eq, hsign, hparts.readUnsigned? hrest, hread, Option.map_map]
    rfl
  -- that is what is read where nothing follows
  have halone := hread [] endsNumber_nil
  rw [List.append_nil] at halone
  have hreread : rereadFloat? x = read := by
    rw [rereadFloat?, halone]
    cases read <;> rfl
  rw [hread rest hrest, hreread]

/-! ## The first character -/

/-- The text begins with a sign or a digit. -/
def BeginsNumber (cs : List Char) : Prop :=
  ∃ c rest, cs = c :: rest ∧ (c = '-' ∨ c.isDigit = true)

/-- More text behind it does not change how a text begins. -/
theorem BeginsNumber.append {cs : List Char} (h : BeginsNumber cs) (rest : List Char) :
    BeginsNumber (cs ++ rest) := by
  obtain ⟨c, cs, rfl, hc⟩ := h
  exact ⟨c, cs ++ rest, rfl, hc⟩

/-- Nothing but a number is read as one. -/
theorem beginsNumber_of_readNumber? {cs : List Char} {p : Value × List Char}
    (h : readNumber? cs = some p) : BeginsNumber cs := by
  cases cs with
  | nil => cases h
  | cons c cs =>
    refine ⟨c, cs, rfl, ?_⟩
    by_contra hc
    rw [not_or] at hc
    have hsign : signOf (c :: cs) = (false, c :: cs) := by
      simp [signOf, hc.1]
    rw [readNumber?_eq, hsign] at h
    simp [readUnsigned?, spanDigits, hc.2] at h

/-- The text of a finite float begins like a number, whether or not it is read as one. -/
theorem beginsNumber_float {x : Float} (hx : x.isFinite = true) :
    BeginsNumber (Decimal.Layout.json.write x).toList := by
  obtain ⟨whole, fraction, exponent, -, hparts⟩ :=
    exists_hasParts_magnitude (normal_shortest (Decimal.Binary.ofFloat x))
  obtain ⟨c, cs, hcs, hdigit⟩ := hparts.exists_cons
  rw [write_of_isFinite hx, hcs]
  split
  · exact ⟨'-', c :: cs, rfl, Or.inl rfl⟩
  · exact ⟨c, cs, rfl, Or.inr hdigit⟩

end ClusterMonitor.Json

import ClusterMonitor.Regex.Basic
import ClusterMonitor.Regex.Class
import ClusterMonitor.Regex.Parser

/-!
# Compiled patterns

`Expression.ofText?` reads a pattern and gives its flags their effect: it yields an expression
without flags, and the names of its groups. A flag set inside a group holds up to the end of the
group, across its alternatives. Patterns whose repetitions multiply to a huge expression are
refused.
-/

namespace ClusterMonitor.Regex

open Unicode (CharSet)

/-- The state of the switches. -/
structure Switches where
  caseInsensitive : Bool := false
  multiLine : Bool := false
  dotMatchesNewline : Bool := false
  swapGreed : Bool := false
  unicode : Bool := true
  crlf : Bool := false

namespace Switches

/-- The state after some changes. -/
def apply (s : Switches) (changes : FlagChanges) : Switches :=
  { caseInsensitive := (flagState? changes .caseInsensitive).getD s.caseInsensitive
    multiLine := (flagState? changes .multiLine).getD s.multiLine
    dotMatchesNewline := (flagState? changes .dotMatchesNewline).getD s.dotMatchesNewline
    swapGreed := (flagState? changes .swapGreed).getD s.swapGreed
    unicode := (flagState? changes .unicode).getD s.unicode
    crlf := (flagState? changes .crlf).getD s.crlf }

def classMode (s : Switches) : ClassMode := ⟨s.unicode, s.caseInsensitive⟩

/-- The characters that a literal matches; outside of the Unicode mode a byte beyond ASCII is no
character. -/
def literalSet? (s : Switches) (l : Literal) : Option CharSet :=
  let byteOutside := !s.unicode && (match l.byte with
    | some b => decide (0x80 ≤ b)
    | none => false)
  if byteOutside then none
  else
    let one := CharSet.singleton l.char
    some (if s.caseInsensitive then
      (if s.unicode then one.foldCase
        else if l.char.toNat < 0x80 then one.foldAsciiCase else one)
      else one)

/-- The characters that a dot matches. Outside of the Unicode mode it would match single bytes, which
is refused. -/
def dotSet? (s : Switches) : Option CharSet :=
  if !s.unicode then none
  else if s.dotMatchesNewline then some .all
  else if s.crlf then some (CharSet.ofChars ['\n', '\r']).negate
  else some (CharSet.singleton '\n').negate

/-- The condition that an assertion stands for. -/
def lookOf (s : Switches) : Assertion → Look
  | .caret =>
    if s.multiLine then (if s.crlf then .lineStartCrlf else .lineStart) else .textStart
  | .dollar =>
    if s.multiLine then (if s.crlf then .lineStopCrlf else .lineStop) else .textStop
  | .textStart => .textStart
  | .textStop => .textStop
  | .wordBoundary => .word .boundary (!s.unicode)
  | .noWordBoundary => .word .noBoundary (!s.unicode)
  | .wordStart => .word .start (!s.unicode)
  | .wordStop => .word .stop (!s.unicode)
  | .wordStartHalf => .word .startHalf (!s.unicode)
  | .wordStopHalf => .word .stopHalf (!s.unicode)

end Switches

mutual

/-- The expression of a tree, and the state of the switches after it. -/
def Tree.expression? (s : Switches) : Tree → Option (Regex × Switches)
  | .nothing => some (.empty, s)
  | .flags changes => some (.empty, s.apply changes)
  | .literal l => (s.literalSet? l).map fun c => (.set c, s)
  | .dot => s.dotSet?.map fun c => (.set c, s)
  | .assertion a => some (.look (s.lookOf a), s)
  | .letter kind negated =>
    (s.classMode.whole? (negateIf negated (kind.charSet s.unicode))).map fun c => (.set c, s)
  | .property p => (s.classMode.propertySet? p).map fun c => (.set c, s)
  | .bracketed negated t =>
    match t.charSet? s.classMode with
    | none => none
    | some c =>
      (s.classMode.whole? (negateIf negated (s.classMode.fold c))).map fun c => (.set c, s)
  | .repeated t min max greedy =>
    (t.expression? s).map fun (r, s') => (.repeated r min max (greedy != s.swapGreed), s')
  | .group (.capturing number) t => (t.expression? s).map fun (r, _) => (.group number r, s)
  | .group (.plain changes) t => (t.expression? (s.apply changes)).map fun (r, _) => (r, s)
  | .alternatives ts => Tree.expressionOfAlternatives? s ts
  | .sequence ts => Tree.expressionOfSequence? s ts

/-- The choice between the expressions of some trees. -/
def Tree.expressionOfAlternatives? (s : Switches) : List Tree → Option (Regex × Switches)
  | [] => some (.empty, s)
  | [t] => t.expression? s
  | t :: rest =>
    match t.expression? s with
    | none => none
    | some (r, s) => (Tree.expressionOfAlternatives? s rest).map fun (q, s) => (.alt r q, s)

/-- The expressions of some trees, one after another. -/
def Tree.expressionOfSequence? (s : Switches) : List Tree → Option (Regex × Switches)
  | [] => some (.empty, s)
  | [t] => t.expression? s
  | t :: rest =>
    match t.expression? s with
    | none => none
    | some (r, s) => (Tree.expressionOfSequence? s rest).map fun (q, s) => (.seq r q, s)

end

/-- The room that an expression takes once its repetitions are written out, as an estimate of the size
of the program that it is compiled to: 32 units a state, and for each range 8, or 40 where it takes more
than one byte. The UTF-8 forms of the ranges are not worked out, so that close to the limit an expression
may be judged differently, as for a large repetition of a class with many ranges, such as `\w{250}`. -/
def size : Regex → Nat
  | .empty => 32
  | .set s => s.ranges.foldl (fun n r => n + (if r.2 < 0x80 then 8 else 40)) 32
  | .look _ => 32
  | .seq a b => size a + size b
  | .alt a b => size a + size b + 36
  | .repeated r min max _ =>
    match max with
    | none => (if min = 0 then 1 else min) * size r + 40
    | some max => max * size r + (max - min) * 40 + 32
  | .group _ r => size r + 64

/-- The room that an expression may take: the limit on the size of a program, held against the
estimate. -/
def sizeLimit : Nat := 10 * Nat.pow 2 20

/-- A compiled pattern: an expression, and its groups by name. -/
structure Expression where
  body : Regex
  names : List (String × Nat)
deriving Inhabited

/-- Compiles a pattern text, if it is a pattern of acceptable size, as far as `size` tells. -/
def Expression.ofText? (text : String) : Option Expression :=
  match Tree.ofText? text with
  | none => none
  | some (t, names) =>
    match t.expression? {} with
    | none => none
    | some (r, _) => if size r ≤ sizeLimit then some ⟨r, names⟩ else none

def Expression.isMatch (e : Expression) (text : String) : Bool := e.body.isMatch text

end ClusterMonitor.Regex

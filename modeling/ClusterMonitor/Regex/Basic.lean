import ClusterMonitor.Unicode.Word

/-!
# Regular expressions and their matches

* `Look` — conditions on a place in a text (line ends, word edges).
* `Regex` — the expressions.
* `Regex.outcomes` — all ways in which an expression can match from a place, the preferred one
  first. Alternatives are preferred from left to right, greedy repetitions prefer one more round.
  Of several ways that end at one place only the first is kept, since nothing that follows can tell
  them apart.
* `Regex.matches` — the successive matches in a text, each the preferred one at the leftmost place.
-/

namespace ClusterMonitor

open Unicode (CharSet)

/-- Where a word edge may lie. -/
inductive WordEdge where
  | boundary
  | noBoundary
  | start
  | stop
  | startHalf
  | stopHalf
deriving DecidableEq, Repr

/-- A condition on a place in a text. -/
inductive Look where
  | textStart
  | textStop
  | lineStart
  | lineStop
  | lineStartCrlf
  | lineStopCrlf
  | word (edge : WordEdge) (ascii : Bool)
deriving DecidableEq, Repr

/-- A place in a text: how many characters lie before it, the last of these, and those after it. -/
structure Place where
  index : Nat
  before : Option Char
  rest : List Char
deriving DecidableEq, Repr

namespace Place

/-- The first place of a text. -/
def ofText (cs : List Char) : Place := ⟨0, none, cs⟩

/-- The place one character further; the last place stays. -/
def next (p : Place) : Place :=
  match p.rest with
  | [] => p
  | c :: rest => ⟨p.index + 1, some c, rest⟩

/-- The place some characters further. -/
def advance : Nat → Place → Place
  | 0, p => p
  | n + 1, p => advance n p.next

end Place

/-- Does a word character stand here? -/
def isWordAt (ascii : Bool) (c : Option Char) : Bool :=
  match c with
  | none => false
  | some c => if ascii then Unicode.isAsciiWord c else Unicode.isWord c

/-- Does the condition hold at the place? -/
def Look.holds (l : Look) (p : Place) : Bool :=
  match l with
  | .textStart => p.before.isNone
  | .textStop => p.rest.isEmpty
  | .lineStart => p.before.isNone || p.before == some '\n'
  | .lineStop => p.rest.isEmpty || p.rest.head? == some '\n'
  | .lineStartCrlf =>
    p.before.isNone || p.before == some '\n' ||
      (p.before == some '\r' && p.rest.head? != some '\n')
  | .lineStopCrlf =>
    p.rest.isEmpty || p.rest.head? == some '\r' ||
      (p.rest.head? == some '\n' && p.before != some '\r')
  | .word edge ascii =>
    let left := isWordAt ascii p.before
    let right := isWordAt ascii p.rest.head?
    match edge with
    | .boundary => left != right
    | .noBoundary => left == right
    | .start => !left && right
    | .stop => left && !right
    | .startHalf => !left
    | .stopHalf => !right

/-- A regular expression. Groups are numbered from one; number zero is the whole match. -/
inductive Regex where
  | empty
  | set (s : CharSet)
  | look (l : Look)
  | seq (a b : Regex)
  | alt (a b : Regex)
  | repeated (r : Regex) (min : Nat) (max : Option Nat) (greedy : Bool)
  | group (number : Nat) (r : Regex)
deriving Inhabited

/-- What the groups have matched so far, the newest entry of a group first. -/
abbrev Groups := List (Nat × Nat × Nat)

/-- A state of a match under way. -/
structure Thread where
  place : Place
  groups : Groups

namespace Regex

/-- Keeps the first of the threads at each place; `seen` has a bit set for each place passed. -/
def distinctFrom (seen : Nat) : List Thread → List Thread
  | [] => []
  | t :: rest =>
    if seen.testBit t.place.index then distinctFrom seen rest
    else t :: distinctFrom (seen ||| Nat.pow 2 t.place.index) rest

/-- Keeps the first of the threads at each place. -/
def distinct (ts : List Thread) : List Thread :=
  match ts with
  | [] => []
  | [t] => [t]
  | ts => distinctFrom 0 ts

/-- One step after another. -/
def andThen (step next : Thread → List Thread) (t : Thread) : List Thread :=
  distinct ((step t).flatMap next)

/-- A fixed number of rounds. -/
def rounds (step : Thread → List Thread) : Nat → Thread → List Thread
  | 0, t => [t]
  | n + 1, t => andThen step (rounds step n) t

/-- Up to a number of rounds. -/
def atMost (step : Thread → List Thread) (greedy : Bool) : Nat → Thread → List Thread
  | 0, t => [t]
  | n + 1, t =>
    let more := (step t).flatMap (atMost step greedy n)
    distinct (if greedy then more ++ [t] else t :: more)

/-- Any number of further rounds, none of them from a place where a round has started before. Gives
the outcomes and the places passed; `budget` exceeds the number of characters left. -/
def further (step : Thread → List Thread) (greedy : Bool) :
    Nat → Nat → Thread → List Thread × Nat
  | 0, seen, t => ([t], seen)
  | budget + 1, seen, t =>
    if seen.testBit t.place.index then ([], seen)
    else
      let more := (step t).foldl
        (fun (acc : List Thread × Nat) u =>
          let (found, seen) := further step greedy budget acc.2 u
          (acc.1 ++ found, seen))
        ([], seen ||| Nat.pow 2 t.place.index)
      (if greedy then more.1 ++ [t] else t :: more.1, more.2)

/-- The outcomes of any number of further rounds. -/
def furtherRounds (step : Thread → List Thread) (greedy : Bool) (t : Thread) : List Thread :=
  (further step greedy (t.place.rest.length + 1) 0 t).1

/-- All outcomes of matching an expression from a thread, the preferred one first. -/
def outcomes : Regex → Thread → List Thread
  | .empty, t => [t]
  | .set s, t =>
    match t.place.rest with
    | [] => []
    | c :: _ => if s.contains c then [{ t with place := t.place.next }] else []
  | .look l, t => if l.holds t.place then [t] else []
  | .seq a b, t => andThen (outcomes a) (outcomes b) t
  | .alt a b, t => distinct (outcomes a t ++ outcomes b t)
  | .repeated r min (some max) greedy, t =>
    andThen (rounds (outcomes r) min) (atMost (outcomes r) greedy (max - min)) t
  | .repeated r 0 none greedy, t =>
    let more := (outcomes r t).flatMap (furtherRounds (outcomes r) greedy)
    distinct (if greedy then more ++ [t] else t :: more)
  | .repeated r (min + 1) none greedy, t =>
    andThen (rounds (outcomes r) (min + 1)) (furtherRounds (outcomes r) greedy) t
  | .group number r, t =>
    (outcomes r t).map fun u =>
      { u with groups := (number, t.place.index, u.place.index) :: u.groups }

/-- A match: its bounds as counts of characters, and what its groups matched. -/
structure Match where
  start : Nat
  stop : Nat
  groups : Groups
deriving Repr

/-- The preferred match that starts at the place. -/
def matchAt? (r : Regex) (p : Place) : Option Match :=
  (outcomes r ⟨p, []⟩).head?.map fun t => ⟨p.index, t.place.index, t.groups⟩

/-- The preferred match at the leftmost place from a given one on. -/
def findFrom? (r : Regex) (index : Nat) (before : Option Char) : List Char → Option Match
  | [] => matchAt? r ⟨index, before, []⟩
  | c :: rest =>
    match matchAt? r ⟨index, before, c :: rest⟩ with
    | some m => some m
    | none => findFrom? r (index + 1) (some c) rest

/-- The preferred match at the leftmost place. -/
def find? (r : Regex) (p : Place) : Option Match := findFrom? r p.index p.before p.rest

/-- Does the expression match anywhere in the text? -/
def isMatch (r : Regex) (text : String) : Bool := (find? r (.ofText text.toList)).isSome

/-- The successive matches from a place on. A match may not be empty where the one before ended;
the search then goes on one character further. `budget` exceeds twice the characters left. -/
def matchesFrom (r : Regex) : Nat → Option Nat → Place → List Match
  | 0, _, _ => []
  | budget + 1, lastStop, p =>
    match find? r p with
    | none => []
    | some m =>
      if m.start = m.stop ∧ lastStop = some m.stop then
        if p.rest.isEmpty then [] else matchesFrom r budget none p.next
      else m :: matchesFrom r budget (some m.stop) (p.advance (m.stop - p.index))

/-- The successive matches in a text. -/
def «matches» (r : Regex) (text : List Char) : List Match :=
  matchesFrom r (2 * text.length + 2) none (.ofText text)

end Regex

end ClusterMonitor

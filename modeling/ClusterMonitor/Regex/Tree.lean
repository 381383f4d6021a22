/-!
# Pattern trees

The grammatical structure of a pattern text, before flags have been given their effect.

* `Tree` — the tree of a pattern.
* `ClassTree` — what stands inside brackets.
* `Tree.nesting` — how deep a pattern is nested; patterns nested too deep are refused.
-/

namespace ClusterMonitor.Regex

/-- The switches that a pattern can turn on and off. -/
inductive Flag where
  | caseInsensitive
  | multiLine
  | dotMatchesNewline
  | swapGreed
  | unicode
  | crlf
  | ignoreBlanks
deriving DecidableEq, Repr

/-- Switches turned on (`true`) and off, in the order written. -/
abbrev FlagChanges := List (Flag × Bool)

/-- The last state that the changes give to a flag, if they mention it. -/
def flagState? (changes : FlagChanges) (flag : Flag) : Option Bool :=
  changes.findSome? fun (f, on) => if f = flag then some on else none

/-- The classes with one-letter names. -/
inductive LetterClass where
  | digit
  | blank
  | word
deriving DecidableEq, Repr

/-- A single character; `byte` is its value when it was written as `\x` with two digits. -/
structure Literal where
  char : Char
  byte : Option Nat := none
deriving DecidableEq, Repr

/-- A class named by a property of characters. -/
structure PropertyClass where
  /-- The property, when a value is asked for. -/
  property : Option String
  /-- The value, or the property itself. -/
  name : String
  negated : Bool
deriving DecidableEq, Repr

/-- The assertions that a pattern can write. -/
inductive Assertion where
  | caret
  | dollar
  | textStart
  | textStop
  | wordBoundary
  | noWordBoundary
  | wordStart
  | wordStop
  | wordStartHalf
  | wordStopHalf
deriving DecidableEq, Repr

/-- Operations on two classes. -/
inductive ClassOperation where
  | intersection
  | difference
  | symmetricDifference
deriving DecidableEq, Repr

/-- What stands inside brackets. -/
inductive ClassTree where
  | nothing
  | literal (l : Literal)
  | range (low high : Literal)
  | ascii (name : String) (negated : Bool)
  | letter (kind : LetterClass) (negated : Bool)
  | property (p : PropertyClass)
  | bracketed (negated : Bool) (t : ClassTree)
  | union (items : List ClassTree)
  | operation (op : ClassOperation) (left right : ClassTree)
deriving Inhabited

/-- How a group was written. -/
inductive GroupKind where
  | capturing (number : Nat)
  | plain (changes : FlagChanges)
deriving Repr

/-- The tree of a pattern. -/
inductive Tree where
  | nothing
  | flags (changes : FlagChanges)
  | literal (l : Literal)
  | dot
  | assertion (a : Assertion)
  | letter (kind : LetterClass) (negated : Bool)
  | property (p : PropertyClass)
  | bracketed (negated : Bool) (t : ClassTree)
  | repeated (t : Tree) (min : Nat) (max : Option Nat) (greedy : Bool)
  | group (kind : GroupKind) (t : Tree)
  | alternatives (ts : List Tree)
  | sequence (ts : List Tree)
deriving Inhabited

/-- Several trees one after another; a single one stands for itself. -/
def Tree.ofSequence : List Tree → Tree
  | [] => .nothing
  | [t] => t
  | ts => .sequence ts

/-- Several trees to choose from; a single one stands for itself. -/
def Tree.ofAlternatives : List Tree → Tree
  | [t] => t
  | ts => .alternatives ts

/-- The items of a bracket; a single one stands for itself. -/
def ClassTree.ofItems : List ClassTree → ClassTree
  | [] => .nothing
  | [t] => t
  | ts => .union ts

/-- The deepest level that patterns may have. -/
def nestingLimit : Nat := 250

mutual

/-- Levels of brackets, unions and operations. -/
def ClassTree.nesting : ClassTree → Nat
  | .bracketed _ t => t.nesting + 1
  | .union items => ClassTree.nestingOfItems items + 1
  | .operation _ a b => max a.nesting b.nesting + 1
  | _ => 0

/-- The deepest of the items. -/
def ClassTree.nestingOfItems : List ClassTree → Nat
  | [] => 0
  | t :: rest => max t.nesting (ClassTree.nestingOfItems rest)

end

mutual

/-- Levels of groups, repetitions, alternatives, sequences and brackets. -/
def Tree.nesting : Tree → Nat
  | .bracketed _ t => t.nesting + 1
  | .repeated t _ _ _ => t.nesting + 1
  | .group _ t => t.nesting + 1
  | .alternatives ts => Tree.nestingOfList ts + 1
  | .sequence ts => Tree.nestingOfList ts + 1
  | _ => 0

/-- The deepest of the trees. -/
def Tree.nestingOfList : List Tree → Nat
  | [] => 0
  | t :: rest => max t.nesting (Tree.nestingOfList rest)

end

end ClusterMonitor.Regex

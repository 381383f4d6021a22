/-!
# Path patterns

Patterns for paths: `?` stands for one character, `*` for any number of them (separators included),
`[abc]`, `[a-z]` and `[!a]` for one character of a set, and `**` as a whole component for any number
of components.

* `Glob.ofText` — reads a pattern, or says what is wrong with it and where.
* `Glob.matches` — does a path match?
-/

namespace ClusterMonitor

/-- One character, or a range of them. -/
inductive Glob.Specifier where
  | single (c : Char)
  | range (low high : Char)
deriving DecidableEq, Repr

/-- The parts of a pattern. -/
inductive Glob.Token where
  | char (c : Char)
  | anyChar
  | anySequence
  | anyComponents
  | within (specifiers : List Glob.Specifier)
  | except (specifiers : List Glob.Specifier)
deriving DecidableEq, Repr

/-- A path pattern. -/
structure Glob where
  tokens : List Glob.Token
deriving DecidableEq, Repr

namespace Glob

/-- What can be wrong with a pattern. -/
inductive Fault where
  | wildcards
  | recursiveWildcards
  | invalidRange
deriving DecidableEq, Repr

/-- A fault, and the number of characters before it. -/
structure Error where
  position : Nat
  fault : Fault
deriving DecidableEq, Repr

def Fault.message : Fault → String
  | .wildcards => "wildcards are either regular `*` or recursive `**`"
  | .recursiveWildcards => "recursive wildcards must form a single path component"
  | .invalidRange => "invalid range pattern"

def Error.message (e : Error) : String :=
  s!"Pattern syntax error near position {e.position}: {e.fault.message}"

def isSeparator (c : Char) : Bool := c == '/'

/-- The characters and ranges between brackets. -/
def specifiersOf : List Char → List Specifier
  | a :: '-' :: b :: rest => .range a b :: specifiersOf rest
  | a :: rest => .single a :: specifiersOf rest
  | [] => []

/-- Splits at the first closing bracket, looking at the second and later characters only. -/
def splitAtBracket? : List Char → Option (List Char × List Char)
  | [] => none
  | first :: rest =>
    match rest.dropWhile (· != ']') with
    | _ :: after => some (first :: rest.takeWhile (· != ']'), after)
    | [] => none

/-- A set of characters, given what follows its opening bracket. -/
def readSet? : List Char → Option (Token × List Char)
  | '!' :: rest =>
    (splitAtBracket? rest).map fun (inner, after) => (.except (specifiersOf inner), after)
  | rest => (splitAtBracket? rest).map fun (inner, after) => (.within (specifiersOf inner), after)

/-- Adds a component wildcard, unless two or more tokens end in one already. -/
def addComponents (read : List Token) : List Token :=
  match read with
  | .anyComponents :: _ :: _ => read
  | _ => .anyComponents :: read

/-- Reads the rest of a pattern. `read` holds the tokens so far and `before` the last character, both
nearest first; `fuel` exceeds the number of characters. -/
def readTokens (fuel position : Nat) (before : Option Char) (read : List Token) (cs : List Char) :
    Except Error (List Token) :=
  match fuel, cs with
  | 0, _ => .ok read.reverse
  | _, [] => .ok read.reverse
  | fuel + 1, '?' :: rest => readTokens fuel (position + 1) (some '?') (.anyChar :: read) rest
  | fuel + 1, '*' :: rest =>
    let stars := 1 + (rest.takeWhile (· == '*')).length
    let rest := rest.dropWhile (· == '*')
    if 2 < stars then .error ⟨position + 2, .wildcards⟩
    else if stars = 1 then readTokens fuel (position + 1) (some '*') (.anySequence :: read) rest
    else if before.isNone || before.any isSeparator then
      match rest with
      | [] => .ok (addComponents read).reverse
      | c :: rest =>
        if isSeparator c then readTokens fuel (position + 3) (some c) (addComponents read) rest
        else .error ⟨position + 2, .recursiveWildcards⟩
    else .error ⟨position - 1, .recursiveWildcards⟩
  | fuel + 1, '[' :: rest =>
    match readSet? rest with
    | some (token, after) =>
      readTokens fuel (position + 1 + (rest.length - after.length)) (some ']') (token :: read) after
    | none => .error ⟨position, .invalidRange⟩
  | fuel + 1, c :: rest => readTokens fuel (position + 1) (some c) (.char c :: read) rest

/-- Reads a pattern. -/
def ofText (text : String) : Except Error Glob :=
  (readTokens (text.length + 1) 0 none [] text.toList).map Glob.mk

/-- Does one of the specifiers name the character? -/
def isNamed (specifiers : List Specifier) (c : Char) : Bool :=
  specifiers.any fun
    | .single a => a == c
    | .range low high => low ≤ c && c ≤ high

/-- The outcome of an attempt: when the path is too short for what must still follow, longer gaps
need not be tried. -/
inductive Attempt where
  | matched
  | failed
  | hopeless
deriving DecidableEq, Repr

/-- Tries what follows a gap at the end of the path and at each place inside it. A gap of whole
components ends at separators only. -/
def tryGaps (components : Bool) (next : List Char → Attempt) : List Char → Attempt
  | [] => next []
  | c :: rest =>
    if components && !isSeparator c then tryGaps components next rest
    else
      match next rest with
      | .failed => tryGaps components next rest
      | outcome => outcome

/-- Matches tokens against a path from its start. -/
def attempt : List Token → List Char → Attempt
  | [], [] => .matched
  | [], _ :: _ => .failed
  | .anySequence :: tokens, cs =>
    match attempt tokens cs with
    | .failed => tryGaps false (attempt tokens) cs
    | outcome => outcome
  | .anyComponents :: tokens, cs =>
    match attempt tokens cs with
    | .failed => tryGaps true (attempt tokens) cs
    | outcome => outcome
  | _ :: _, [] => .hopeless
  | .char a :: tokens, c :: rest => if a = c then attempt tokens rest else .failed
  | .anyChar :: tokens, _ :: rest => attempt tokens rest
  | .within specifiers :: tokens, c :: rest =>
    if isNamed specifiers c then attempt tokens rest else .failed
  | .except specifiers :: tokens, c :: rest =>
    if isNamed specifiers c then .failed else attempt tokens rest

/-- Does the path match the pattern? -/
def «matches» (g : Glob) (path : String) : Bool := attempt g.tokens path.toList == .matched

end Glob

end ClusterMonitor

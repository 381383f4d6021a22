import ClusterMonitor.Regex.Expression

/-!
# Replacing matches

* `Match.group?` — the text that a group has matched.
* `expand` — fills a template with the groups of a match: `$1`, `$name`, `${name}`, and `$$` for the
  dollar sign. A reference to a group that has not matched, or that does not exist, gives no text.
* `Expression.replaceAllWith` — replaces every match by a text computed from it.
* `Expression.replaceAll` — replaces every match by a filled template.
-/

namespace ClusterMonitor.Regex

/-- The characters between two places. -/
def slice (cs : List Char) (start stop : Nat) : List Char := (cs.drop start).take (stop - start)

/-- What a group has matched; group zero is the whole match. -/
def Match.group? (m : Match) (cs : List Char) (number : Nat) : Option (List Char) :=
  if number = 0 then some (slice cs m.start m.stop)
  else
    m.groups.findSome? fun (n, start, stop) =>
      if n = number then some (slice cs start stop) else none

/-- What a named group has matched. -/
def Match.named? (m : Match) (e : Expression) (cs : List Char) (name : String) :
    Option (List Char) :=
  match e.names.lookup name with
  | some number => m.group? cs number
  | none => none

/-- A character of a group reference without braces. -/
def isReferenceChar (c : Char) : Bool := c.isAlphanum || c == '_'

/-- The group that a reference names: by number if it is one, else by name. -/
def referenceText (m : Match) (e : Expression) (cs reference : List Char) : List Char :=
  let digits := match reference with
    | '+' :: digits => digits
    | _ => reference
  if !digits.isEmpty && digits.all Char.isDigit && Decimal.natOfDigits digits < Nat.pow 2 64 then
    (m.group? cs (Decimal.natOfDigits digits)).getD []
  else (m.named? e cs (String.ofList reference)).getD []

/-- A template with its references filled in; `fuel` exceeds the length of the template. -/
def expandFrom (m : Match) (e : Expression) (cs : List Char) : Nat → List Char → List Char
  | 0, _ => []
  | _ + 1, [] => []
  | fuel + 1, '$' :: '$' :: rest => '$' :: expandFrom m e cs fuel rest
  | fuel + 1, '$' :: '\x7b' :: rest =>
    match rest.dropWhile (· != '\x7d') with
    | _ :: after =>
      referenceText m e cs (rest.takeWhile (· != '\x7d')) ++ expandFrom m e cs fuel after
    | [] => '$' :: expandFrom m e cs fuel ('\x7b' :: rest)
  | fuel + 1, '$' :: rest =>
    let reference := rest.takeWhile isReferenceChar
    if reference.isEmpty then '$' :: expandFrom m e cs fuel rest
    else referenceText m e cs reference ++ expandFrom m e cs fuel (rest.dropWhile isReferenceChar)
  | fuel + 1, c :: rest => c :: expandFrom m e cs fuel rest

/-- A template with its references filled in. -/
def expand (m : Match) (e : Expression) (cs : List Char) (template : String) : List Char :=
  expandFrom m e cs (template.length + 1) template.toList

/-- The text from a place on, with the matches replaced. -/
def replaceFrom (replacement : Match → List Char) (cs : List Char) (place : Nat) :
    List Match → List Char
  | [] => cs.drop place
  | m :: rest =>
    slice cs place m.start ++ replacement m ++ replaceFrom replacement cs m.stop rest

/-- The text with every match replaced. -/
def Expression.replaceAllWith (e : Expression) (text : String)
    (replacement : List Char → Match → List Char) : String :=
  let cs := text.toList
  String.ofList (replaceFrom (replacement cs) cs 0 (e.body.matches cs))

/-- The text with every match replaced by a template. -/
def Expression.replaceAll (e : Expression) (text template : String) : String :=
  e.replaceAllWith text fun cs m => expand m e cs template

end ClusterMonitor.Regex

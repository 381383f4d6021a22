import ClusterMonitor.Decode.Basic
import ClusterMonitor.Log.Error
import ClusterMonitor.Regex.Replacement

/-!
# Line patterns

A pattern keeps the text it was written as beside the compiled expression. Two patterns are the same
when their texts are, and a pattern is written to documents as its text.
-/

namespace ClusterMonitor

/-- A pattern text with its compiled expression. -/
structure Pattern where
  text : String
  expression : Regex.Expression

namespace Pattern

/-- The reason that is given for a text that does not compile. -/
def malformedReason : String := "not a valid regular expression"

/-- Compiles a text. -/
def compile (text : String) : Except LogError Regex.Expression :=
  match Regex.Expression.ofText? text with
  | some e => .ok e
  | none => .error (.invalidPattern text malformedReason)

def ofText (text : String) : Except LogError Pattern := (compile text).map fun e => ⟨text, e⟩

/-- Does the pattern match anywhere in the text? -/
def isMatch (p : Pattern) (text : String) : Bool := p.expression.isMatch text

/-- The text of the pattern that matches only where a text starts. -/
def anchoredText (p : Pattern) : String := "^(?:" ++ p.text ++ ")"

/-- The expression that matches only where a text starts. It is compiled from `anchoredText`, and
can fail to compile where the pattern itself does not. -/
def anchored (p : Pattern) : Except LogError Regex.Expression := compile p.anchoredText

instance : BEq Pattern := ⟨fun p q => p.text == q.text⟩

/-- Decodes a pattern from its text. -/
def decode (n : Node) : Decoded Pattern := do
  let text ← Decode.text n
  match ofText text with
  | .ok p => return p
  | .error e => .error (.other e.message)

end Pattern

end ClusterMonitor

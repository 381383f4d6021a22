/-!
# Styles of terminal text

Emphasis and colour for a terminal, or plain text where these are not wanted.
-/

namespace ClusterMonitor.CommandLine

/-- Whether texts are styled at all. -/
inductive Style where
  | plain
  | coloured
deriving DecidableEq, Repr

namespace Style

/-- What ends a style. -/
def reset : String := "\x1b[0m"

/-- A text in the style of some codes. Where the text itself ends a style, this one begins anew. -/
def apply (codes : String) (s : Style) (text : String) : String :=
  match s with
  | .plain => text
  | .coloured =>
    let start := s!"\x1b[{codes}m"
    start ++ text.replace reset (reset ++ start) ++ reset

def bold : Style → String → String := apply "1"
def dimmed : Style → String → String := apply "2"
def red : Style → String → String := apply "31"
def boldRed : Style → String → String := apply "1;31"
def green : Style → String → String := apply "32"
def yellow : Style → String → String := apply "33"
def cyan : Style → String → String := apply "36"

end Style

end ClusterMonitor.CommandLine

import ClusterMonitor.Proofs.Regex.Continuations
import ClusterMonitor.Redaction

/-!
# The patterns of credentials

`inUrl_eq`, `header_eq` and `pair_eq` — the expressions that the built-in pattern texts compile to.
-/

namespace ClusterMonitor

deriving instance DecidableEq for Regex, Regex.Expression

namespace Credentials

open Regex Unicode

/-! ## The expressions -/

def letterSet : CharSet := .ofRanges [(0x41, 0x5A), (0x61, 0x7A)]

/-- What may follow the first letter of a scheme. -/
def schemeSet : CharSet :=
  .ofRanges [(0x2B, 0x2B), (0x2D, 0x2E), (0x30, 0x39), (0x41, 0x5A), (0x61, 0x7A)]

/-- Blanks and the characters that no user name has. -/
def userStops : CharSet := (CharSet.ofChars [':', '/', '@']).union blankSet

/-- Blanks and the characters that no password in a URL has. -/
def passwordStops : CharSet := (CharSet.ofChars ['@', '/']).union blankSet

/-- Blanks and the characters that no unquoted value has. -/
def valueStops : CharSet := (CharSet.ofChars [',', ';', '&', '"', '\'']).union blankSet

/-- The characters of the token that an authorization header carries. -/
def tokenSet : CharSet :=
  (CharSet.ofRanges [(0x2B, 0x2B), (0x2D, 0x39), (0x3D, 0x3D), (0x41, 0x5A), (0x5F, 0x5F),
    (0x61, 0x7A), (0x7E, 0x7E)]).foldCase

/-- The words that name a secret. -/
def keyWords : List String := ["password", "passwd", "pwd", "secret", "api_key", "token"]

/-- The words that name a form of authorization. -/
def formWords : List String := ["basic", "bearer", "digest"]

/-- The characters of a word, each in any case. -/
def caselessSets (word : String) : List CharSet :=
  word.toList.map fun c => (CharSet.singleton c).foldCase

/-- One of some words, in any case. -/
def oneOf (words : List String) : Regex := choice (words.map fun word => spelled (caselessSets word))

/-- A word starts or ends here. -/
def wordEdge : Look := .word .boundary false

/-- What stands between a scheme and what it is the scheme of. -/
def slashes : List Char := [':', '/', '/']

def schemeBody : Regex :=
  .seq (.look wordEdge)
    (.seq (.set letterSet) (.seq (zeroOrMore schemeSet) (spelled (slashes.map .singleton))))

/-- The compiled pattern for URLs: scheme, user and password, with the signs between them. -/
theorem inUrl_eq : inUrl =
    ⟨.seq (.group 1 schemeBody)
      (.seq (.group 2 (oneOrMore userStops.negate))
        (.seq (.set (.singleton ':'))
          (.seq (.group 3 (oneOrMore passwordStops.negate)) (.set (.singleton '@'))))),
      [("pass", 3), ("user", 2), ("scheme", 1)]⟩ := by
  decide +kernel

theorem inUrl_names : inUrl.names = [("pass", 3), ("user", 2), ("scheme", 1)] := by
  rw [inUrl_eq]

/-- Some characters one after another, and then another expression. -/
def spelledThen (sets : List CharSet) (r : Regex) : Regex :=
  sets.foldr (fun s r => .seq (.set s) r) r

def openingBody : Regex :=
  spelledThen (caselessSets "authorization") (.seq (zeroOrMore blankSet)
    (.seq (.set (.singleton ':')) (.seq (zeroOrMore blankSet) (oneOf formWords))))

/-- The compiled pattern for headers: all that comes before what they carry, blanks, and a token. -/
theorem header_eq : header =
    ⟨.seq .empty (.seq (.group 1 openingBody) (.seq (oneOrMore blankSet) (oneOrMore tokenSet))),
      [("scheme", 1)]⟩ := by
  decide +kernel

theorem header_names : header.names = [("scheme", 1)] := by
  rw [header_eq]

def separatorBody : Regex :=
  .seq (.repeated (.set (.singleton '"')) 0 (some 1) true)
    (.seq (zeroOrMore blankSet) (.seq (.set (.ofChars ['=', ':'])) (zeroOrMore blankSet)))

/-- A value in quotation marks of a kind. -/
def quotedBody (mark : Char) : Regex :=
  .seq (.set (.singleton mark))
    (.seq (zeroOrMore (CharSet.singleton mark).negate) (.set (.singleton mark)))

def valueBody : Regex := choice [quotedBody '"', quotedBody '\'', oneOrMore valueStops.negate]

/-- The compiled pattern for keys and values: from the edge of a word, a key, a separator and a
value. -/
theorem pair_eq : pair =
    ⟨.seq .empty
      (.seq (.look wordEdge)
        (.seq (.group 1 (oneOf keyWords)) (.seq (.group 2 separatorBody) (.group 3 valueBody)))),
      [("value", 3), ("sep", 2), ("key", 1)]⟩ := by
  decide +kernel

theorem pair_names : pair.names = [("value", 3), ("sep", 2), ("key", 1)] := by
  rw [pair_eq]

end Credentials

end ClusterMonitor

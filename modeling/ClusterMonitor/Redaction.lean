import ClusterMonitor.Digest.Base64
import ClusterMonitor.Digest.Sha256
import ClusterMonitor.Json.Writer
import ClusterMonitor.Regex.Replacement
import ClusterMonitor.Text.Utf8

/-!
# Redaction

Scrubs credentials from text before it is shown, and secret members from values.

* `Redactor` — what is scrubbed, and what stands in its place: the mask, or a short digest by which
  equal secrets can be recognized.
* `Redactor.redact` — a text: passwords in URLs, authorization headers, password pairs, then the
  patterns of the operator.
* `Redactor.redactValue` — a value: members with secret keys are masked whole at any depth, all other
  strings are redacted.
-/

namespace ClusterMonitor

/-- What stands in the place of a secret. -/
def secretMask : String := "********"

/-- How a digest in the place of a secret starts. -/
def digestOpening : String := "HASH["

namespace Credentials

/-- A built-in pattern. -/
def compiled (text : String) : Regex.Expression := (Regex.Expression.ofText? text).getD default

/-- A user and a password in a URL. -/
def inUrl : Regex.Expression :=
  compiled r"(?P<scheme>\b[a-zA-Z][a-zA-Z0-9+.-]*://)(?P<user>[^:/@\s]+):(?P<pass>[^@/\s]+)@"

/-- A key that names a secret, and its value. -/
def pair : Regex.Expression :=
  compiled <| r"(?i)\b(?P<key>password|passwd|pwd|secret|api_key|token)" ++
    r#"(?P<sep>"?\s*[=:]\s*)(?P<value>"[^"]*"|'[^']*'|[^\s,;&"']+)"#

/-- An authorization header. -/
def header : Regex.Expression :=
  compiled r"(?i)(?P<scheme>authorization\s*:\s*(?:basic|bearer|digest))\s+[A-Za-z0-9+/=._~-]+"

end Credentials

/-- What is scrubbed from texts. -/
structure Redactor where
  urls : Bool := true
  pairs : Bool := true
  headers : Bool := true
  /-- Secrets are replaced by digests and not by the mask. -/
  digests : Bool := false
  /-- Further patterns with the templates that replace their matches. -/
  custom : List (Regex.Expression × String) := []

namespace Redactor

/-- The first eight bytes of the digest of a secret. -/
def shortDigest (secret : String) : String :=
  String.ofList (Base64.encode ((Sha256.digest (Text.encode secret)).take 8))

/-- What stands in the place of a secret. -/
def mask (r : Redactor) (secret : String) : String :=
  if r.digests then digestOpening ++ shortDigest secret ++ "]" else secretMask

/-- The text of a named group of a match. -/
def groupText (e : Regex.Expression) (cs : List Char) (m : Regex.Match) (name : String) : String :=
  String.ofList ((m.named? e cs name).getD [])

/-- Masks the passwords in URLs. -/
def redactUrls (r : Redactor) (text : String) : String :=
  Credentials.inUrl.replaceAllWith text fun cs m =>
    let group := groupText Credentials.inUrl cs m
    (group "scheme" ++ group "user" ++ ":" ++ r.mask (group "pass") ++ "@").toList

/-- Masks the values of password pairs, unless a mask or a digest stands there already. -/
def redactPairs (r : Redactor) (text : String) : String :=
  Credentials.pair.replaceAllWith text fun cs m =>
    let group := groupText Credentials.pair cs m
    let value := group "value"
    if value = secretMask ∨ digestOpening.isPrefixOf value then Regex.slice cs m.start m.stop
    else (group "key" ++ group "sep" ++ r.mask value).toList

/-- Masks what authorization headers carry. -/
def redactHeaders (r : Redactor) (text : String) : String :=
  Credentials.header.replaceAllWith text fun cs m =>
    let whole := String.ofList (Regex.slice cs m.start m.stop)
    (groupText Credentials.header cs m "scheme" ++ " " ++ r.mask whole).toList

/-- A text without its credentials. -/
def redact (r : Redactor) (text : String) : String :=
  let text := if r.urls then r.redactUrls text else text
  let text := if r.headers then r.redactHeaders text else text
  let text := if r.pairs then r.redactPairs text else text
  r.custom.foldl (fun text (e, template) => e.replaceAll text template) text

mutual

/-- A value without its secrets. -/
def redactValue (r : Redactor) (secretKeys : List String) : Value → Value
  | .object members => .object (redactMembers r secretKeys members)
  | .array items => .array (redactItems r secretKeys items)
  | .string text => .string (r.redact text)
  | v => v

/-- Items without their secrets. -/
def redactItems (r : Redactor) (secretKeys : List String) : List Value → List Value
  | [] => []
  | v :: rest => redactValue r secretKeys v :: redactItems r secretKeys rest

/-- Members without their secrets; a secret member is masked by the text of its value, unless it is
`null`. -/
def redactMembers (r : Redactor) (secretKeys : List String) :
    List (String × Value) → List (String × Value)
  | [] => []
  | (key, v) :: rest =>
    let shown :=
      if secretKeys.contains key && !v.isNull then .string (r.mask (Json.write v))
      else redactValue r secretKeys v
    (key, shown) :: redactMembers r secretKeys rest

end

end Redactor

/-- A text redacted in the usual way. -/
def redact (text : String) : String := ({} : Redactor).redact text

end ClusterMonitor

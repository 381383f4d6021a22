import ClusterMonitor.Proofs.Redaction.Credentials

/-!
# The passes of redaction

Each pass of redaction replaces the matches of one pattern. Here the passes are taken as functions on
characters, with what they put in the place of what they find.

* `maskLogins`, `maskAuthorizations`, `maskPairs` — the passes, and `redact_eq_passes` — redaction
  runs them one after another.
* `loginReplacement_found`, `authorizationReplacement_found`, `pairReplacement_found` — what stands in
  the place of what is found.
-/

namespace ClusterMonitor

open Regex Credentials

/-! ## Groups further on in a text -/

/-- A group further on in a text has the same characters. -/
theorem Redactor.groupText_moved (e : Expression) (pre cs : List Char) (m : Match) (name : String) :
    groupText e (pre ++ cs) (m.moved pre.length) name = groupText e cs m name := by
  rw [groupText, groupText, Match.named?_moved]

/-- The text of a group that has been found. -/
theorem Redactor.groupText_of_named? {e : Expression} {cs : List Char} {m : Match} {name : String}
    {xs : List Char} (h : m.named? e cs name = some xs) : groupText e cs m name = String.ofList xs := by
  rw [groupText, h, Option.getD_some]

/-! ## No match is empty -/

namespace Credentials

theorem Login.text_ne (l : Login) : l.text ≠ [] := by simp [Login.text]

theorem Authorization.text_ne (a : Authorization) : a.text ≠ [] := by
  simp [Authorization.text, Authorization.opening]

theorem Pair.text_ne (p : Pair) : p.text ≠ [] := by simp [Pair.text, Pair.sep]

/-- The pattern for URLs never matches the empty text, so that each of its matches takes the scan
further. -/
theorem neverEmpty_inUrl : NeverEmpty inUrl.body :=
  neverEmpty_of_stop fun _ _ _ h => by
    obtain ⟨-, l, rest, -, rfl⟩ := exists_login h
    exact List.length_pos_iff.mpr l.text_ne

/-- The pattern for headers never matches the empty text. -/
theorem neverEmpty_header : NeverEmpty header.body :=
  neverEmpty_of_stop fun _ _ _ h => by
    obtain ⟨a, rest, -, -, rfl⟩ := exists_authorization h
    exact List.length_pos_iff.mpr a.text_ne

/-- The pattern for keys and values never matches the empty text. -/
theorem neverEmpty_pair : NeverEmpty pair.body :=
  neverEmpty_of_stop fun _ _ _ h => by
    obtain ⟨-, p, rest, -, -, rfl⟩ := exists_pair h
    exact List.length_pos_iff.mpr p.text_ne

end Credentials

namespace Redactor

/-! ## What is put in the place of a match -/

def loginReplacement (r : Redactor) (cs : List Char) (m : Match) : List Char :=
  let group := groupText inUrl cs m
  (group "scheme" ++ group "user" ++ ":" ++ r.mask (group "pass") ++ "@").toList

def authorizationReplacement (r : Redactor) (cs : List Char) (m : Match) : List Char :=
  let whole := String.ofList (Regex.slice cs m.start m.stop)
  (groupText header cs m "scheme" ++ " " ++ r.mask whole).toList

def pairReplacement (r : Redactor) (cs : List Char) (m : Match) : List Char :=
  let group := groupText pair cs m
  let value := group "value"
  if value = secretMask ∨ digestOpening.isPrefixOf value then Regex.slice cs m.start m.stop
  else (group "key" ++ group "sep" ++ r.mask value).toList

variable (r : Redactor)

/-- Without digests every secret is replaced by the same mask. -/
theorem mask_default (secret : String) : ({} : Redactor).mask secret = secretMask := rfl

/-- What a login is replaced by does not depend on the text before it. -/
theorem local_loginReplacement : Local r.loginReplacement := fun pre cs m => by
  simp only [loginReplacement, groupText_moved]

/-- A match further on in a text covers the same characters. -/
theorem slice_moved (pre cs : List Char) (m : Match) :
    slice (pre ++ cs) (m.moved pre.length).start (m.moved pre.length).stop =
      slice cs m.start m.stop :=
  slice_append pre cs m.start m.stop

/-- What a header is replaced by does not depend on the text before it. -/
theorem local_authorizationReplacement : Local r.authorizationReplacement := fun pre cs m => by
  simp only [authorizationReplacement, groupText_moved, slice_moved]

/-- What a key with its value is replaced by does not depend on the text before it. -/
theorem local_pairReplacement : Local r.pairReplacement := fun pre cs m => by
  simp only [pairReplacement, groupText_moved, slice_moved]

/-- A login keeps its scheme and its user, and the password is masked. -/
theorem loginReplacement_found (l : Login) (rest : List Char) :
    r.loginReplacement (l.text ++ rest) l.found =
      l.scheme ++ (l.user ++ ':' :: ((r.mask (String.ofList l.pass)).toList ++ ['@'])) := by
  simp only [loginReplacement, groupText_of_named? (l.named?_scheme rest),
    groupText_of_named? (l.named?_user rest), groupText_of_named? (l.named?_pass rest)]
  simp

theorem slice_found (xs rest : List Char) : slice (xs ++ rest) 0 xs.length = xs := by
  simp [slice]

/-- A header keeps its name and the form of authorization, and what stands behind them is the mask
of the whole. -/
theorem authorizationReplacement_found (a : Authorization) (rest : List Char) :
    r.authorizationReplacement (a.text ++ rest) a.found =
      a.opening ++ ' ' :: (r.mask (String.ofList a.text)).toList := by
  have hwhole : slice (a.text ++ rest) a.found.start a.found.stop = a.text := slice_found a.text rest
  simp only [authorizationReplacement, groupText_of_named? (a.named?_scheme rest), hwhole]
  simp

/-- A value that need not be masked. -/
def IsMasked (value : List Char) : Prop :=
  value = secretMask.toList ∨ digestOpening.toList <+: value

instance (value : List Char) : Decidable (IsMasked value) :=
  inferInstanceAs (Decidable (_ ∨ _))

/-- The test on strings is the one on characters. -/
theorem ofList_isMasked_iff (value : List Char) :
    (String.ofList value = secretMask ∨ digestOpening.isPrefixOf (String.ofList value) = true) ↔
      IsMasked value := by
  rw [IsMasked, String.isPrefixOf, String.startsWith_string_iff, String.toList_ofList,
    ← String.toList_inj, String.toList_ofList]

/-- A key keeps what stands before its value. A value that is masked already stays as it is. -/
theorem pairReplacement_found (p : Pair) (rest : List Char) :
    r.pairReplacement (p.text ++ rest) p.found =
      if IsMasked p.value then p.text
      else p.key ++ (p.sep ++ (r.mask (String.ofList p.value)).toList) := by
  have hwhole : slice (p.text ++ rest) p.found.start p.found.stop = p.text := slice_found p.text rest
  simp only [pairReplacement, groupText_of_named? (p.named?_key rest),
    groupText_of_named? (p.named?_sep rest), groupText_of_named? (p.named?_value rest), hwhole,
    ofList_isMasked_iff]
  split
  · rfl
  · simp

/-! ## The passes -/

def maskLogins (cs : List Char) : List Char := scan inUrl.body r.loginReplacement none 0 cs

def maskAuthorizations (cs : List Char) : List Char :=
  scan header.body r.authorizationReplacement none 0 cs

def maskPairs (cs : List Char) : List Char := scan pair.body r.pairReplacement none 0 cs

/-- The passes one after another. -/
def passes (cs : List Char) : List Char := r.maskPairs (r.maskAuthorizations (r.maskLogins cs))

/-- The pass over URLs as a function on characters. -/
theorem redactUrls_eq (text : String) :
    r.redactUrls text = String.ofList (r.maskLogins text.toList) :=
  replaceAllWith_eq_scan neverEmpty_inUrl r.local_loginReplacement text

/-- The pass over headers as a function on characters. -/
theorem redactHeaders_eq (text : String) :
    r.redactHeaders text = String.ofList (r.maskAuthorizations text.toList) :=
  replaceAllWith_eq_scan neverEmpty_header r.local_authorizationReplacement text

/-- The pass over keys and values as a function on characters. -/
theorem redactPairs_eq (text : String) :
    r.redactPairs text = String.ofList (r.maskPairs text.toList) :=
  replaceAllWith_eq_scan neverEmpty_pair r.local_pairReplacement text

/-- Redaction without patterns of the operator, with the mask or with digests. -/
theorem redact_eq_passes (digests : Bool) (text : String) :
    ({ digests } : Redactor).redact text =
      String.ofList (({ digests } : Redactor).passes text.toList) := by
  simp [redact, redactUrls_eq, redactHeaders_eq, redactPairs_eq, passes]

end Redactor

/-- Redaction without digests is the three passes one after another. -/
theorem redact_eq (text : String) :
    redact text = String.ofList (({} : Redactor).passes text.toList) :=
  Redactor.redact_eq_passes false text

end ClusterMonitor

import ClusterMonitor.Proofs.Redaction.Passes
import ClusterMonitor.Proofs.Redaction.Starts

/-!
# Values of keys that name secrets

Of an assignment `key=value` redaction leaves the key and the mask, whatever the value looks like:
passwords of URLs in it are masked first, an authorization header has no room in it, and what is left
of it is masked as a whole. Only what starts like a digest is taken for one and left.

* `prefix_scan_logins_iff` — the pass over logins keeps how a text starts.
* `passes_assignment` — what becomes of an assignment.
* `redact_assignment_iff` — when its value is masked.
-/

namespace ClusterMonitor

open Regex Unicode Credentials

/-! ## What the pass over logins keeps -/

namespace Redactor

variable (r : Redactor)

/-- The pass over logins keeps what stands before a colon at the start of a text. -/
theorem prefix_scan_logins_iff {xs : List Char} (hxs : ':' ∉ xs) (before : Option Char)
    (cs : List Char) : xs <+: scan inUrl.body r.loginReplacement before 0 cs ↔ xs <+: cs := by
  induction before, cs using scan_induction r.loginReplacement neverEmpty_inUrl
    generalizing xs with
  | nil before => rfl
  | copied before c rest hnone ih =>
    cases xs with
    | nil => simp
    | cons x xs =>
      rw [List.cons_prefix_cons, List.cons_prefix_cons]
      exact and_congr_right fun _ => ih fun h => hxs (List.mem_cons_of_mem x h)
  | replaced before m ys rest hm hstop hne ih =>
    -- a login has its scheme before the first colon, and the pass leaves the scheme as it is
    obtain ⟨l, rfl, rfl⟩ := exists_login_of_stop hm hstop
    rw [loginReplacement_found, Login.text, Login.scheme, slashes]
    simp only [List.append_assoc, List.cons_append, List.nil_append]
    rw [← List.cons_append, prefix_append_cons_iff hxs, ← List.cons_append,
      prefix_append_cons_iff hxs]

/-- Characters of a text that may stand in unquoted values still may when logins are masked. -/
theorem isValueChar_scan_logins (hmask : ∀ pass, ∀ c ∈ (r.mask pass).toList,
    valueStops.negate.contains c = true) {cs : List Char}
    (hcs : ∀ c ∈ cs, valueStops.negate.contains c = true) (before : Option Char) :
    ∀ c ∈ scan inUrl.body r.loginReplacement before 0 cs, valueStops.negate.contains c = true := by
  refine forall_mem_scan neverEmpty_inUrl (fun before xs rest m hm hstop hxs => ?_) hcs
  obtain ⟨l, rfl, rfl⟩ := exists_login_of_stop hm hstop
  rw [loginReplacement_found]
  simp only [Login.text, List.forall_mem_append, List.forall_mem_cons] at hxs ⊢
  exact ⟨hxs.1, hxs.2.1, hxs.2.2.1, hmask _, hxs.2.2.2.2⟩

end Redactor

/-- No authorization header starts in a text without blanks. -/
theorem quiet_header_of_forall {cs : List Char} (hcs : ∀ c ∈ cs, isBlank c = false)
    (before : Option Char) : Quiet header.body before cs [] := by
  refine quiet_of_forall fun before ys hys hne => ?_
  cases hm : matchAt? header.body ⟨0, before, ys ++ []⟩ with
  | none => rfl
  | some m =>
    obtain ⟨a, rest, -, htext, -⟩ := exists_authorization hm
    obtain ⟨c, cs', hc⟩ := List.exists_cons_of_ne_nil a.blanks_ne
    have hmem : c ∈ ys := by
      rw [← List.append_nil ys, htext, Authorization.text, hc]
      simp
    have hblank : isBlank c = true := a.blanks_mem c (by simp [hc])
    rw [hcs c (hys.mem hmem)] at hblank
    cases hblank

/-! ## Assignments -/

/-- A value without its passwords in URLs. -/
def maskedValue (value : List Char) : List Char :=
  scan inUrl.body ({} : Redactor).loginReplacement (some '=') 0 value

/-- Masking a login in a value leaves something of the value. -/
theorem maskedValue_ne_nil {value : List Char} (h : value ≠ []) : maskedValue value ≠ [] := by
  refine scan_ne_nil neverEmpty_inUrl (fun before cs m hm => ?_) h
  obtain ⟨-, l, rest, rfl, rfl⟩ := exists_login hm
  rw [Redactor.loginReplacement_found, Login.scheme]
  simp

theorem isValueChar_maskedValue {value : List Char}
    (h : ∀ c ∈ value, valueStops.negate.contains c = true) :
    ∀ c ∈ maskedValue value, valueStops.negate.contains c = true := by
  refine Redactor.isValueChar_scan_logins {} (fun pass => ?_) h _
  rw [Redactor.mask_default]
  exact List.all_eq_true.mp (by decide)

/-- No character of an assignment ends a value. -/
theorem isValueChar_of_mem_assignment {word : String} (hword : word ∈ keyWords) {value : List Char}
    (h : ∀ c ∈ value, valueStops.negate.contains c = true) :
    ∀ c ∈ word.toList ++ '=' :: value, valueStops.negate.contains c = true := by
  have hall : ∀ word ∈ keyWords, word.toList.all valueStops.negate.contains = true := by decide
  rw [List.forall_mem_append, List.forall_mem_cons]
  exact ⟨List.all_eq_true.mp (hall word hword), by decide, h⟩

section Assignment

variable {word : String} (hword : word ∈ keyWords)
include hword

/-- The pass over URLs works on the value alone. -/
theorem maskLogins_assignment (value : List Char) :
    ({} : Redactor).maskLogins (word.toList ++ '=' :: value) =
      word.toList ++ '=' :: maskedValue value := by
  -- a login that started in the key would have its colon before the sign
  have hcolon : ∀ word ∈ keyWords, ':' ∉ word.toList := by decide
  have hlast : lastOf none (word.toList ++ ['=']) = some '=' := by simp [lastOf]
  have hquiet : Quiet inUrl.body none (word.toList ++ ['=']) value :=
    quiet_of_signBefore (signBefore_inUrl (by decide) (by decide)) (by decide)
      (by simpa using hcolon word hword) value
  have hscan := scan_append ({} : Redactor).loginReplacement hquiet
  rw [hlast] at hscan
  simpa [Redactor.maskLogins, maskedValue] using hscan

/-- The pass over headers finds nothing in an assignment, as there is no blank. -/
theorem maskAuthorizations_assignment {value : List Char}
    (hvalue : ∀ c ∈ value, valueStops.negate.contains c = true) :
    ({} : Redactor).maskAuthorizations (word.toList ++ '=' :: value) = word.toList ++ '=' :: value := by
  have hblank : ∀ c ∈ word.toList ++ '=' :: value, isBlank c = false := fun c hc =>
    (contains_stops_negate.mp (isValueChar_of_mem_assignment hword hvalue c hc)).2
  have hscan := scan_append ({} : Redactor).authorizationReplacement
    (quiet_header_of_forall hblank none)
  simpa [Redactor.maskAuthorizations, scan] using hscan

/-- The pass over keys and values masks the value, unless it is masked. -/
theorem maskPairs_assignment {value : List Char} (hne : value ≠ [])
    (hvalue : ∀ c ∈ value, valueStops.negate.contains c = true) :
    ({} : Redactor).maskPairs (word.toList ++ '=' :: value) =
      word.toList ++ '=' ::
        if Redactor.IsMasked value then value else secretMask.toList := by
  have htext : word.toList ++ '=' :: value = (Pair.assigned hword value).text ++ [] := by
    simp [Pair.assigned, Pair.text, Pair.sep]
  have hedge : wordEdge.holds ⟨0, none, word.toList ++ '=' :: value⟩ = true := by
    have hall : ∀ word ∈ keyWords, wordEdge.holds ⟨0, none, word.toList⟩ = true ∧ word.toList ≠ [] := by
      decide
    obtain ⟨hhere, hnil⟩ := hall word hword
    obtain ⟨c, cs, hcs⟩ := List.exists_cons_of_ne_nil hnil
    rw [hcs] at hhere ⊢
    exact hhere
  rw [htext] at hedge
  rw [Redactor.maskPairs, htext, scan_of_some (matchAt?_assigned hword hne hvalue (by simp) hedge) rfl
    (Pair.assigned hword value).text_ne, Redactor.pairReplacement_found, scan, List.append_nil]
  have hparts : (Pair.assigned hword value).value = value ∧
      (Pair.assigned hword value).sep = ['='] ∧ (Pair.assigned hword value).key = word.toList :=
    ⟨rfl, rfl, rfl⟩
  rw [Pair.text, hparts.1, hparts.2.1, hparts.2.2]
  split <;> rfl

/-- All passes together mask the value, or leave one that was or has become masked. -/
theorem passes_assignment {value : List Char} (hne : value ≠ [])
    (hvalue : ∀ c ∈ value, valueStops.negate.contains c = true) :
    ({} : Redactor).passes (word.toList ++ '=' :: value) =
      word.toList ++ '=' ::
        if Redactor.IsMasked (maskedValue value) then maskedValue value else secretMask.toList := by
  have hvalue' := isValueChar_maskedValue hvalue
  rw [Redactor.passes, maskLogins_assignment hword, maskAuthorizations_assignment hword hvalue',
    maskPairs_assignment hword (maskedValue_ne_nil hne) hvalue']

end Assignment

/-- A value that needs no quotation marks. -/
structure IsBare (value : String) : Prop where
  ne_empty : value ≠ ""
  forall_mem : ∀ c ∈ value.toList, c ∉ [',', ';', '&', '"', '\''] ∧ isBlank c = false

/-- A text is a bare value if none of its characters ends one. -/
theorem isBare_of_all {value : String} (hne : value ≠ "")
    (h : value.toList.all valueStops.negate.contains = true) : IsBare value :=
  ⟨hne, fun c hc => contains_stops_negate.mp (List.all_eq_true.mp h c hc)⟩

/-- The value starts like a digest that has been put in the place of a secret. -/
def StartsAsDigest (value : String) : Prop := digestOpening.toList <+: value.toList

/-- The value of a key is replaced by the mask, as a whole, if and only if it does not start like a
digest. -/
theorem redact_assignment_iff {word : String} (hword : word ∈ keyWords) {value : String}
    (hvalue : IsBare value) :
    redact (word ++ "=" ++ value) = word ++ "=" ++ secretMask ↔ ¬StartsAsDigest value := by
  have hne : value.toList ≠ [] := by simpa using hvalue.ne_empty
  have hmem : ∀ c ∈ value.toList, valueStops.negate.contains c = true := fun c hc =>
    contains_stops_negate.mpr (hvalue.forall_mem c hc)
  have hopening : digestOpening.toList <+: maskedValue value.toList ↔ StartsAsDigest value :=
    Redactor.prefix_scan_logins_iff {} (by decide) _ _
  have htext : ∀ value : String, (word ++ "=" ++ value).toList = word.toList ++ '=' :: value.toList := by
    simp
  rw [redact_eq, ← String.toList_inj, String.toList_ofList, htext, htext,
    passes_assignment hword hne hmem, ← hopening, List.append_cancel_left_eq,
    List.cons.injEq, eq_self, true_and]
  have hmask : ¬digestOpening.toList <+: secretMask.toList := by decide
  by_cases hdigest : digestOpening.toList <+: maskedValue value.toList
  · have hmasked : Redactor.IsMasked (maskedValue value.toList) := Or.inr hdigest
    rw [if_pos hmasked]
    exact iff_of_false (fun h => hmask (h ▸ hdigest)) (not_not_intro hdigest)
  · refine iff_of_true ?_ hdigest
    split
    · rename_i h
      exact h.resolve_right hdigest
    · rfl

/-- A value that starts like a digest is shown, although it is none. -/
theorem redact_spares_digest_opening :
    IsBare "HASH[hunter2" ∧
      redact ("password" ++ "=" ++ "HASH[hunter2") ≠ "password" ++ "=" ++ secretMask := by
  have hbare : IsBare "HASH[hunter2" := isBare_of_all (by decide) (by decide)
  refine ⟨hbare, fun h => ?_⟩
  exact (redact_assignment_iff (by decide) hbare).mp h ⟨"hunter2".toList, by decide⟩

/-- Of an assignment to a key nothing but the key is left, unless the value starts like a digest; so
no two such values can be told apart. -/
theorem redact_assignment_hides {word : String} (hword : word ∈ keyWords) {v w : String}
    (hv : IsBare v) (hw : IsBare w) :
    (redact (word ++ "=" ++ v) = word ++ "=" ++ secretMask ↔ ¬StartsAsDigest v) ∧
      (¬StartsAsDigest v → ¬StartsAsDigest w →
        redact (word ++ "=" ++ v) = redact (word ++ "=" ++ w)) := by
  have hiff := redact_assignment_iff hword hv
  refine ⟨hiff, fun hvDigest hwDigest => ?_⟩
  exact (hiff.mpr hvDigest).trans ((redact_assignment_iff hword hw).mpr hwDigest).symm

theorem redact_assignment_hides_url :
    redact ("token" ++ "=" ++ "http://a:b@c") = redact ("token" ++ "=" ++ "********x") := by
  have hnot : ∀ v ∈ ["http://a:b@c", "********x"], ¬StartsAsDigest v := by
    unfold StartsAsDigest
    decide
  have h := redact_assignment_hides (show "token" ∈ keyWords by decide) (v := "http://a:b@c")
    (w := "********x") (isBare_of_all (by decide) (by decide)) (isBare_of_all (by decide) (by decide))
  exact h.2 (hnot _ (by decide)) (hnot _ (by decide))

end ClusterMonitor

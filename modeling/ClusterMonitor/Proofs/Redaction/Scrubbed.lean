import ClusterMonitor.Proofs.Redaction.Passes
import ClusterMonitor.Proofs.Regex.Quiet

/-!
# Texts with nothing left to be redacted

* `Redactor.Scrubbed` — all that the built-in patterns find in a text is masked already.
* `maskLogins_cases`, `maskAuthorizations_cases`, `maskPairs_cases` — a pass finds nothing else and
  changes nothing, or it changes the text at a first place.
* `redact_of_scrubbed` — redaction leaves scrubbed texts as they are.
-/

namespace ClusterMonitor.Redactor

open Regex Credentials

variable (r : Redactor)

/-- The match has found a password that stands in its own place when it is masked. -/
def PasswordMasked (cs : List Char) (m : Match) : Prop :=
  r.mask (groupText inUrl cs m "pass") = groupText inUrl cs m "pass"

/-- The match has found a mask for a value, or what starts like a digest. -/
def ValueMasked (cs : List Char) (m : Match) : Prop :=
  groupText pair cs m "value" = secretMask ∨
    digestOpening.isPrefixOf (groupText pair cs m "value") = true

/-- Nothing is left in the text to be redacted. -/
structure Scrubbed (text : String) : Prop where
  logins : ∀ m ∈ inUrl.body.matches text.toList, r.PasswordMasked text.toList m
  authorizations : header.body.matches text.toList = []
  pairs : ∀ m ∈ pair.body.matches text.toList, ValueMasked text.toList m

/-! ## What is found -/

/-- The password of a login that was found is masked if it is its own mask. -/
theorem passwordMasked_found_iff (l : Login) (rest : List Char) :
    r.PasswordMasked (l.text ++ rest) l.found ↔ (r.mask (String.ofList l.pass)).toList = l.pass := by
  rw [PasswordMasked, groupText_of_named? (l.named?_pass rest), ← String.toList_inj,
    String.toList_ofList]

/-- The value of a pair that was found is masked if it is a mask or a digest. -/
theorem valueMasked_found_iff (p : Pair) (rest : List Char) :
    ValueMasked (p.text ++ rest) p.found ↔ IsMasked p.value := by
  rw [ValueMasked, groupText_of_named? (p.named?_value rest), ofList_isMasked_iff]

/-- The pass over URLs leaves a text alone if all passwords are masked, and else changes it. -/
theorem maskLogins_cases (cs : List Char) :
    (r.maskLogins cs = cs ∧ ∀ m ∈ inUrl.body.matches cs, r.PasswordMasked cs m) ∨
      Changes inUrl.body r.loginReplacement r.PasswordMasked cs (r.maskLogins cs) ∧
        ¬∀ m ∈ inUrl.body.matches cs, r.PasswordMasked cs m := by
  refine scan_cases neverEmpty_inUrl r.PasswordMasked (fun pre cs m => ?_)
    (fun before xs rest m hm hstop h => ?_) cs
  · rw [PasswordMasked, groupText_moved]
    rfl
  · obtain ⟨l, rfl, rfl⟩ := exists_login_of_stop hm hstop
    rw [loginReplacement_found, (r.passwordMasked_found_iff l rest).mp h, Login.text]

/-- The pass over headers leaves a text alone if there is no header, and else changes it. -/
theorem maskAuthorizations_cases (cs : List Char) :
    (r.maskAuthorizations cs = cs ∧ header.body.matches cs = []) ∨
      Changes header.body r.authorizationReplacement (fun _ _ => False) cs (r.maskAuthorizations cs) ∧
        header.body.matches cs ≠ [] := by
  rw [ne_eq, List.eq_nil_iff_forall_not_mem]
  exact scan_cases neverEmpty_header (fun _ _ => False) (fun _ _ _ => Iff.rfl)
    (fun _ _ _ _ _ _ h => h.elim) cs

/-- The pass over keys and values leaves a text alone if all values are masked, and else changes
it. -/
theorem maskPairs_cases (cs : List Char) :
    (r.maskPairs cs = cs ∧ ∀ m ∈ pair.body.matches cs, ValueMasked cs m) ∨
      Changes pair.body r.pairReplacement ValueMasked cs (r.maskPairs cs) ∧
        ¬∀ m ∈ pair.body.matches cs, ValueMasked cs m := by
  refine scan_cases neverEmpty_pair ValueMasked (fun pre cs m => ?_)
    (fun before xs rest m hm hstop h => ?_) cs
  · rw [ValueMasked, groupText_moved]
    rfl
  · obtain ⟨p, -, rfl, rfl⟩ := exists_pair_of_stop hm hstop
    rw [pairReplacement_found, if_pos ((valueMasked_found_iff p rest).mp h)]

/-- Redaction leaves a text as it is if nothing is left in it to be redacted. -/
theorem redact_of_scrubbed {digests : Bool} {text : String}
    (h : ({ digests } : Redactor).Scrubbed text) : ({ digests } : Redactor).redact text = text := by
  generalize hr : ({ digests } : Redactor) = r at h
  have hlogins : r.maskLogins text.toList = text.toList :=
    ((r.maskLogins_cases _).resolve_right fun h' => h'.2 h.logins).1
  have hauthorizations : r.maskAuthorizations text.toList = text.toList :=
    ((r.maskAuthorizations_cases _).resolve_right fun h' => h'.2 h.authorizations).1
  have hpairs : r.maskPairs text.toList = text.toList :=
    ((r.maskPairs_cases _).resolve_right fun h' => h'.2 h.pairs).1
  rw [← hr, redact_eq_passes, hr, passes, hlogins, hauthorizations, hpairs, String.ofList_toList]

end ClusterMonitor.Redactor

import ClusterMonitor.Proofs.CommandLine.Report
import ClusterMonitor.Proofs.Redaction.Passes
import ClusterMonitor.Proofs.Redaction.Starts
import ClusterMonitor.Proofs.Url.Passwords

/-!
# Passwords in URLs

Redaction hides the password of a URL behind a user name, and only there: the pattern of logins asks for
a user. The other passes find nothing before the host, whatever letters and digits the password has.

* `isPlain_of_mem_username` — what user names are made of in accepted URLs.
* `redact_withPassword_eq` — behind a user a password makes no difference to the redacted URL.
* `scan_lonePassword` — without a user no pass reaches the password.
* `Url.redact_withPassword_iff` — when the redacted URL depends on the password.
-/

namespace ClusterMonitor

open Regex Unicode Credentials

namespace Url

/-! ## User names -/

/-- What users are made of in URLs. -/
def IsPlain (c : Char) : Prop := c ∉ [':', '/', '@'] ∧ isBlank c = false

/-- An escaped byte is written in plain characters. -/
theorem isPlain_of_mem_escapeByte (b : UInt8) : ∀ c ∈ escapeByte b, IsPlain c := by
  have hdigit : ∀ n < 16, IsPlain (if n < 10 then Char.ofNat (48 + n) else Char.ofNat (55 + n)) := by
    unfold IsPlain
    decide
  have hlow : b.toNat % 16 < 16 := Nat.mod_lt _ (by decide)
  have hhigh : b.toNat / 16 < 16 := by have := b.toNat_lt; omega
  simp only [escapeByte, List.forall_mem_cons, List.not_mem_nil, false_imp_iff, implies_true, and_true]
  exact ⟨by unfold IsPlain; decide, hdigit _ hhigh, hdigit _ hlow⟩

theorem isPlain_of_mem_escapeChar (c : Char) : ∀ d ∈ escapeChar userEscapes c, IsPlain d := by
  unfold escapeChar
  split
  · intro d hd
    obtain ⟨b, -, hd⟩ := List.mem_flatMap.mp hd
    exact isPlain_of_mem_escapeByte b d hd
  · rename_i hc
    simp only [not_or] at hc
    obtain ⟨hlow, hhigh, hc⟩ := hc
    have hmarks : [':', '/', '@', ' '].all userEscapes.contains = true := by decide
    have hne : ∀ d ∈ [':', '/', '@', ' '], c ≠ d := by
      rintro d hd rfl
      exact hc (List.all_eq_true.mp hmarks c hd)
    have hspace : c.toNat ≠ 0x20 := fun h => hne ' ' (by decide) (Char.toNat_inj.mp h)
    intro d hd
    cases List.mem_singleton.mp hd
    refine ⟨fun hmem => ?_, isBlank_eq_false (by omega) (by omega)⟩
    exact hne c (List.mem_append_left [' '] hmem) rfl

theorem isPlain_of_mem_escape (cs : List Char) :
    ∀ c ∈ (escape userEscapes cs).toList, IsPlain c := by
  intro c hc
  rw [escape, String.toList_ofList] at hc
  obtain ⟨d, -, hd⟩ := List.mem_flatMap.mp hc
  exact isPlain_of_mem_escapeChar d c hd

/-- The user of a URL that was read is an escaped text. -/
theorem exists_username_eq_escape {raw : String} {u : Url} (h : ofText? raw = .ok u) :
    ∃ cs, u.username = escape userEscapes cs := by
  unfold ofText? at h
  split at h
  · cases h
  · rename_i scheme rest _
    have hrefused : ∀ verdict : Except UrlFault Unit,
        (verdict.bind fun _ => (.error (.foreignScheme scheme) : Except UrlFault Url)) ≠ .ok u := by
      rintro (e | ⟨⟩) <;> simp [Except.bind]
    dsimp only at h
    split at h
    · simp only [readWeb, bind, Except.bind] at h
      split at h
      · cases h
      · cases h
        exact ⟨_, rfl⟩
    · exact absurd h (hrefused _)
    · exact absurd h (hrefused _)
    · exact absurd h (hrefused _)

theorem isPlain_of_mem_username {raw : String} {u : Url} (h : ofText? raw = .ok u) :
    ∀ c ∈ u.username.toList, IsPlain c := by
  obtain ⟨cs, hcs⟩ := exists_username_eq_escape h
  rw [hcs]
  exact isPlain_of_mem_escape cs

/-! ## Passwords -/

/-- Letters and digits are plain. -/
theorem isPlain_of_isAlphanum {c : Char} (h : c.isAlphanum = true) : IsPlain c := by
  have hcode := code_of_isAlphanum h
  refine ⟨?_, isBlank_eq_false (by omega) (by omega)⟩
  simp only [List.mem_cons, List.not_mem_nil, or_false, ← Char.toNat_inj]
  simp
  omega

/-- What follows the user and the password in the text of a URL. -/
def afterUser (u : Url) : List Char :=
  (u.host.text ++ ((u.port.map fun p => ":" ++ toString p).getD "") ++ pathText u.path ++
    ((u.query.map ("?" ++ ·)).getD "") ++ ((u.fragment.map ("#" ++ ·)).getD "")).toList

/-- What stands before the password. -/
def beforePassword (u : Url) : List Char :=
  u.scheme.text.toList ++ (slashes ++ (u.username.toList ++ [':']))

/-- The text of a URL with another password. -/
theorem toList_text_withPassword (u : Url) {password : String} (h : password ≠ "") :
    ({ u with password } : Url).text.toList =
      u.beforePassword ++ (password.toList ++ '@' :: u.afterUser) := by
  have hempty : password.isEmpty = false := by simpa using h
  simp [text, userText, hempty, beforePassword, afterUser, slashes]

/-- The user and the password of a URL that has both. -/
def login {raw : String} {u : Url} (hu : ofText? raw = .ok u) (huser : u.username ≠ "")
    {password : String} (hne : password ≠ "") (hpassword : ∀ c ∈ password.toList, IsPlain c) :
    Login where
  initial := 'h'
  others := u.scheme.text.toList.tail
  user := u.username.toList
  pass := password.toList
  initial_mem := by decide
  others_mem := List.all_eq_true.mp (by cases u.scheme <;> decide)
  user_ne := by simpa using huser
  user_mem := fun c hc => contains_stops_negate.mpr (isPlain_of_mem_username hu c hc)
  pass_ne := by simpa using hne
  pass_mem := fun c hc => by
    refine contains_stops_negate.mpr ⟨fun hmem => (hpassword c hc).1 ?_, (hpassword c hc).2⟩
    rcases List.mem_pair.mp hmem with rfl | rfl <;> decide

end Url

/-- The pass over logins hides the password of the first one, and goes on behind it. -/
theorem Redactor.maskLogins_login (r : Redactor) (l : Login) (rest : List Char)
    (hedge : wordEdge.holds ⟨0, none, l.text ++ rest⟩ = true) :
    r.maskLogins (l.text ++ rest) =
      l.scheme ++ (l.user ++ ':' :: ((r.mask (String.ofList l.pass)).toList ++
        '@' :: scan inUrl.body r.loginReplacement (some '@') 0 rest)) := by
  have hlast : lastOf none l.text = some '@' := by
    simp [Login.text, lastOf]
  rw [Redactor.maskLogins, scan_of_some (matchAt?_login hedge) rfl l.text_ne, hlast,
    loginReplacement_found]
  simp

namespace Url

/-- A URL with a user and a plain password begins with a login, as redaction looks for it. -/
theorem login_text {raw : String} {u : Url} (hu : ofText? raw = .ok u) (huser : u.username ≠ "")
    {password : String} (hne : password ≠ "") (hpassword : ∀ c ∈ password.toList, IsPlain c) :
    ({ u with password } : Url).text.toList =
      (login hu huser hne hpassword).text ++ u.afterUser := by
  have hscheme : u.scheme.text.toList = 'h' :: u.scheme.text.toList.tail := by
    cases u.scheme <;> rfl
  rw [toList_text_withPassword u hne, beforePassword, hscheme]
  simp [login, Login.text, Login.scheme]

/-- A password behind a user is hidden. -/
theorem redact_withPassword_eq {raw : String} {u : Url} (hu : ofText? raw = .ok u)
    (huser : u.username ≠ "") {p q : String} (hp : p ≠ "") (hq : q ≠ "")
    (hp' : ∀ c ∈ p.toList, IsPlain c) (hq' : ∀ c ∈ q.toList, IsPlain c) :
    redact ({ u with password := p } : Url).text = redact ({ u with password := q } : Url).text := by
  have hpass : ∀ {password : String} (hne : password ≠ "") (hmem : ∀ c ∈ password.toList, IsPlain c),
      ({} : Redactor).maskLogins ({ u with password } : Url).text.toList =
        u.beforePassword ++ (secretMask.toList ++
          '@' :: scan inUrl.body ({} : Redactor).loginReplacement (some '@') 0 u.afterUser) := by
    intro password hne hmem
    have hscheme : u.scheme.text.toList = 'h' :: u.scheme.text.toList.tail := by
      cases u.scheme <;> rfl
    rw [login_text hu huser hne hmem, Redactor.maskLogins_login _ _ _ rfl, beforePassword, hscheme]
    simp [login, Login.scheme, Redactor.mask]
  rw [redact_eq, redact_eq, Redactor.passes, Redactor.passes, hpass hp hp', hpass hq hq']

/-! ## Passwords without a user -/

/-- What stands before a password without a user. -/
def beforeLonePassword (scheme : WebScheme) : List Char := scheme.text.toList ++ (slashes ++ [':'])

/-- Before a password without a user, the pattern for URLs finds nothing. -/
theorem quiet_inUrl_beforeLonePassword (scheme : WebScheme) (rest : List Char) :
    Quiet inUrl.body none (beforeLonePassword scheme) rest := by
  -- a login that starts here would have no user
  have hhere : matchAt? inUrl.body ⟨0, none, beforeLonePassword scheme ++ rest⟩ = none := by
    cases hm : matchAt? inUrl.body ⟨0, none, beforeLonePassword scheme ++ rest⟩ with
    | none => rfl
    | some m =>
      obtain ⟨-, l, rest', hcs, -⟩ := exists_login hm
      have hinitial : ':' ∉ l.initial :: l.others := by
        rw [List.mem_cons, not_or]
        refine ⟨fun h => ?_, notMem_of_contains l.others_mem (by decide)⟩
        have hmem := l.initial_mem
        rw [← h] at hmem
        exact absurd hmem (by decide)
      have hscheme : ':' ∉ scheme.text.toList := by cases scheme <;> decide
      have htext : scheme.text.toList ++ ':' :: '/' :: '/' :: ':' :: rest =
          (l.initial :: l.others) ++
            ':' :: '/' :: '/' :: (l.user ++ ':' :: (l.pass ++ '@' :: rest')) := by
        simpa [beforeLonePassword, slashes, Login.text, Login.scheme] using hcs
      have hcut := append_cons_inj_of_notMem hscheme hinitial htext
      obtain ⟨d, ds, hd⟩ := List.exists_cons_of_ne_nil l.user_ne
      have hmem := l.user_mem d (by simp [hd])
      simp only [hd, List.cons_append, List.cons.injEq, true_and] at hcut
      rw [← hcut.2.1] at hmem
      exact absurd hmem (by decide)
  cases scheme with
  | http => exact ⟨hhere, quiet_of_nowhere (fun _ _ _ _ => loginMayStart_of_matchAt?) (by decide) rest⟩
  | https => exact ⟨hhere, quiet_of_nowhere (fun _ _ _ _ => loginMayStart_of_matchAt?) (by decide) rest⟩

theorem quiet_header_beforeLonePassword (scheme : WebScheme) (rest : List Char) :
    Quiet header.body none (beforeLonePassword scheme) rest := by
  refine quiet_of_nowhere (fun _ _ _ _ => headerMayStart_of_matchAt?) ?_ rest
  cases scheme <;> decide

theorem quiet_pair_beforeLonePassword (scheme : WebScheme) (rest : List Char) :
    Quiet pair.body none (beforeLonePassword scheme) rest := by
  refine quiet_of_nowhere (fun _ _ _ _ => pairMayStart_of_matchAt?) ?_ rest
  cases scheme <;> decide

/-- A pass that finds nothing up to the host of a URL goes on behind the password. -/
theorem scan_lonePassword {r : Regex} {replacement : List Char → Match → List Char}
    {scheme : WebScheme} {signs : List Char} (hsigns : ∀ sign ∈ signs, sign = ':' ∨ sign = '=')
    (hsign : SignBefore r '@' signs)
    (hquiet : ∀ rest, Quiet r none (beforeLonePassword scheme) rest) {password : List Char}
    (hpassword : ∀ c ∈ password, c.isAlphanum = true) (rest : List Char) :
    scan r replacement none 0 (beforeLonePassword scheme ++ (password ++ '@' :: rest)) =
      beforeLonePassword scheme ++
        (password ++ '@' :: scan r replacement (some '@') 0 rest) := by
  have hmark : '@' ∉ signs := fun h => by simpa using hsigns '@' h
  have hnone : ∀ sign ∈ signs, sign ∉ password := by
    intro sign h hmem
    have halphanum := hpassword sign hmem
    rcases hsigns sign h with rfl | rfl <;> exact absurd halphanum (by decide)
  have hall := scan_append replacement
    (quiet_append (hquiet _) (quiet_of_signBefore hsign hmark hnone rest))
  have hlast : lastOf none (beforeLonePassword scheme ++ (password ++ ['@'])) = some '@' := by
    simp [lastOf]
  rw [hlast] at hall
  simpa using hall

/-- A password without a user is not hidden. -/
theorem toList_redact_lonePassword (scheme : WebScheme) (rest : List Char) :
    ∃ rest', ∀ password : List Char, (∀ c ∈ password, c.isAlphanum = true) →
      ({} : Redactor).passes (beforeLonePassword scheme ++ (password ++ '@' :: rest)) =
        beforeLonePassword scheme ++ (password ++ '@' :: rest') := by
  refine ⟨scan pair.body ({} : Redactor).pairReplacement (some '@') 0
    (scan header.body ({} : Redactor).authorizationReplacement (some '@') 0
      (scan inUrl.body ({} : Redactor).loginReplacement (some '@') 0 rest)), ?_⟩
  intro password hpassword
  rw [Redactor.passes, Redactor.maskLogins, scan_lonePassword (by simp) (signBefore_inUrl (by decide) (by decide))
    (quiet_inUrl_beforeLonePassword scheme) hpassword]
  rw [Redactor.maskAuthorizations, scan_lonePassword (by simp) (signBefore_header (by decide) (by decide))
    (quiet_header_beforeLonePassword scheme) hpassword]
  rw [Redactor.maskPairs, scan_lonePassword (by simp) signBefore_pair
    (quiet_pair_beforeLonePassword scheme) hpassword]

/-- Redaction hides the password of a URL if and only if there is a user name before it. -/
theorem redact_withPassword_iff {raw : String} {u : Url} (hu : ofText? raw = .ok u) {p q : String}
    (hp : p ≠ "") (hq : q ≠ "") (hp' : ∀ c ∈ p.toList, c.isAlphanum = true)
    (hq' : ∀ c ∈ q.toList, c.isAlphanum = true) :
    redact ({ u with password := p } : Url).text = redact ({ u with password := q } : Url).text ↔
      u.username ≠ "" ∨ p = q := by
  by_cases huser : u.username = ""
  · have hbefore : u.beforePassword = beforeLonePassword u.scheme := by
      simp [beforePassword, beforeLonePassword, huser]
    obtain ⟨rest', hrest⟩ := toList_redact_lonePassword u.scheme u.afterUser
    rw [redact_eq, redact_eq, toList_text_withPassword u hp, toList_text_withPassword u hq, hbefore,
      hrest _ hp', hrest _ hq', String.ofList_inj, List.append_cancel_left_eq,
      List.append_cancel_right_eq, String.toList_inj]
    simp [huser]
  · have hplain : ∀ {s : String}, (∀ c ∈ s.toList, c.isAlphanum = true) → ∀ c ∈ s.toList, IsPlain c :=
      fun h c hc => isPlain_of_isAlphanum (h c hc)
    exact iff_of_true (redact_withPassword_eq hu huser hp hq (hplain hp') (hplain hq')) (Or.inl huser)

/-- URLs with different passwords and no user look different redacted. -/
theorem redact_reveals_lone_password :
    ∃ u : Url, ofText? "http://:x@[::1]:8080/" = .ok u ∧
      redact ({ u with password := "hunter2" } : Url).text ≠
        redact ({ u with password := "letmein" } : Url).text := by
  obtain ⟨u, hu, huser⟩ : ∃ u : Url, ofText? "http://:x@[::1]:8080/" = .ok u ∧ u.username = "" :=
    ⟨_, rfl, rfl⟩
  refine ⟨u, hu, fun h => ?_⟩
  rw [redact_withPassword_iff hu (by decide) (by decide) (List.all_eq_true.mp (by decide))
    (List.all_eq_true.mp (by decide))] at h
  rcases h with h | h
  · exact h huser
  · exact absurd h (by decide)

end Url

/-! ## Instances -/

open CommandLine CommandLine.Action

/-- The same instance with another password in its URL. -/
def Instance.withPassword (i : Instance) (password : String) : Instance :=
  { i with url := { i.url with password } }

/-- The line of an instance tells two passwords apart just if its redacted URL does. -/
theorem outcomeLine_eq_iff (style : Style) (index : Nat) (i : Instance) (p q : String) :
    outcomeLine style ⟨index, .ok (i.withPassword p)⟩ =
        outcomeLine style ⟨index, .ok (i.withPassword q)⟩ ↔
      redact (i.withPassword p).url.text = redact (i.withPassword q).url.text := by
  have hservices : ∀ s, (i.withPassword s).services = i.services := fun _ => rfl
  simp only [outcomeLine, hservices]
  rw [← String.toList_inj, ← String.toList_inj]
  simp [toString]

/-- What is shown of an accepted instance hides the password in its URL if and only if there is a user
name before it: the redacted URL and the line of the report, and then the redacted document. -/
theorem Instance.password_hidden_iff {raw : String} {i : Instance} (hurl : Url.ofText? raw = .ok i.url)
    {p q : String} (hp : p ≠ "") (hq : q ≠ "") (hp' : ∀ c ∈ p.toList, c.isAlphanum = true)
    (hq' : ∀ c ∈ q.toList, c.isAlphanum = true) :
    (redact (i.withPassword p).url.text = redact (i.withPassword q).url.text ↔
      i.url.username ≠ "" ∨ p = q) ∧
    (∀ style index, outcomeLine style ⟨index, .ok (i.withPassword p)⟩ =
        outcomeLine style ⟨index, .ok (i.withPassword q)⟩ ↔ i.url.username ≠ "" ∨ p = q) ∧
    (i.url.username ≠ "" ∨ p = q → ∀ secretKeys,
      ({} : Redactor).redactValue secretKeys (i.withPassword p).toValue =
        ({} : Redactor).redactValue secretKeys (i.withPassword q).toValue) := by
  have hiff := Url.redact_withPassword_iff hurl hp hq hp' hq'
  refine ⟨hiff, fun style index => (outcomeLine_eq_iff style index i p q).trans hiff,
    fun h secretKeys => ?_⟩
  have hsame : (i.withPassword p).SameShown (i.withPassword q) :=
    ⟨(i.withPassword q).url, rfl, hiff.mpr h⟩
  exact Instance.redactValue_of_sameShown hsame secretKeys

theorem Instance.password_hidden_iff_admin :
    ∃ i : Instance, Url.ofText? "http://admin:x@[::1]:8080/" = .ok i.url ∧
      redact (i.withPassword "hunter2").url.text = redact (i.withPassword "letmein").url.text ∧
      outcomeLine .plain ⟨0, .ok (i.withPassword "hunter2")⟩ =
        outcomeLine .plain ⟨0, .ok (i.withPassword "letmein")⟩ := by
  obtain ⟨u, hu, huser⟩ : ∃ u : Url, Url.ofText? "http://admin:x@[::1]:8080/" = .ok u ∧
      u.username = "admin" := ⟨_, rfl, rfl⟩
  have hnamed : (ofUrl u).url.username ≠ "" ∨ "hunter2" = "letmein" :=
    Or.inl (huser.trans_ne (by decide))
  have h := password_hidden_iff (i := ofUrl u) hu (p := "hunter2") (q := "letmein") (by decide)
    (by decide) (List.all_eq_true.mp (by decide)) (List.all_eq_true.mp (by decide))
  exact ⟨ofUrl u, hu, h.1.mpr hnamed, (h.2.1 .plain 0).mpr hnamed⟩

end ClusterMonitor

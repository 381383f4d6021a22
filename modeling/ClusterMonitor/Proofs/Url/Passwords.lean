import ClusterMonitor.Url.Basic
import Mathlib.Data.List.TakeWhile

/-!
# Passwords in the texts of URLs

A URL is accepted or refused whatever letters and digits the password in its text has. They are
in the password of the URL that is read, and in no other part of it.

* `IsWord` — texts of letters and digits.
* `Url.LoginText` — a text of a URL with a scheme and a user, and a place for the password.
* `Url.LoginText.readWeb_cases`, `Url.LoginText.ofText?_cases` — what is read for all passwords.
-/

namespace ClusterMonitor

/-- Letters and digits, at least one. -/
def IsWord (s : String) : Prop := s ≠ "" ∧ ∀ c ∈ s.toList, c.isAlphanum = true

instance (s : String) : Decidable (IsWord s) :=
  decidable_of_iff (s ≠ "" ∧ s.toList.all Char.isAlphanum = true)
    (and_congr_right' List.all_eq_true)

/-- The codes of letters and digits. -/
theorem code_of_isAlphanum {c : Char} (h : c.isAlphanum = true) :
    (48 ≤ c.toNat ∧ c.toNat ≤ 57) ∨ (65 ≤ c.toNat ∧ c.toNat ≤ 90) ∨
      (97 ≤ c.toNat ∧ c.toNat ≤ 122) := by
  rcases (Bool.or_eq_true ..).mp h with halpha | hdigit
  · rcases (Bool.or_eq_true ..).mp halpha with hupper | hlower
    · have hrange : 'A'.val ≤ c.val ∧ c.val ≤ 'Z'.val := of_decide_eq_true hupper
      exact .inr (.inl hrange)
    · obtain ⟨hge, hle⟩ := (Bool.and_eq_true ..).mp hlower
      exact .inr (.inr ⟨of_decide_eq_true hge, of_decide_eq_true hle⟩)
  · obtain ⟨hge, hle⟩ := (Bool.and_eq_true ..).mp hdigit
    exact .inl ⟨of_decide_eq_true hge, of_decide_eq_true hle⟩

namespace Url

/-! ## The parts of a text -/

/-- What is left behind the end of a run is left whatever comes after it. -/
theorem dropWhile_append_of_forall {p : Char → Bool} (xs : List Char) {ys : List Char}
    (h : ∀ c ∈ ys, p c = false) : (xs ++ ys).dropWhile p = xs.dropWhile p ++ ys := by
  induction xs with
  | nil =>
    cases ys with
    | nil => rfl
    | cons y ys => simp [h y List.mem_cons_self]
  | cons x xs ih => cases hx : p x <;> simp [hx, ih]

/-- What comes before the first sign is not changed by what comes after a sign. -/
theorem takeWhile_ne_append_cons (sign : Char) (xs ys : List Char) :
    (xs ++ sign :: ys).takeWhile (· ≠ sign) = xs.takeWhile (· ≠ sign) := by
  induction xs with
  | nil => simp
  | cons x xs ih => by_cases hx : x = sign <;> simp_all

/-- A text is cleaned behind what it has of visible characters at its start. -/
theorem exists_cleaned_append (rest : List Char) :
    ∃ rest', ∀ pre : List Char, pre ≠ [] → (∀ c ∈ pre, 0x20 < c.toNat) →
      cleaned (String.ofList (pre ++ rest)) = pre ++ rest' := by
  refine ⟨((rest.reverse.dropWhile fun c => decide (c.toNat ≤ 0x20)).reverse).filter
    fun c => decide (c ≠ '\t' ∧ c ≠ '\n' ∧ c ≠ '\r'), fun pre hne hpre => ?_⟩
  have hedge : ∀ c ∈ pre, decide (c.toNat ≤ 0x20) = false := by
    intro c hc
    simpa using hpre c hc
  have hstart : (pre ++ rest).dropWhile (fun c => decide (c.toNat ≤ 0x20)) = pre ++ rest := by
    obtain ⟨c, cs, rfl⟩ := List.exists_cons_of_ne_nil hne
    exact List.dropWhile_cons_of_neg (by rw [hedge c List.mem_cons_self]; decide)
  have hback : ∀ c ∈ pre.reverse, decide (c.toNat ≤ 0x20) = false := fun c hc =>
    hedge c (List.mem_reverse.mp hc)
  have hend := dropWhile_append_of_forall rest.reverse hback
  have hall : pre.filter (fun c => decide (c ≠ '\t' ∧ c ≠ '\n' ∧ c ≠ '\r')) = pre := by
    refine List.filter_eq_self.mpr fun c hc => decide_eq_true ⟨?_, ?_, ?_⟩ <;>
      rintro rfl <;> exact absurd (hpre _ hc) (by decide)
  rw [cleaned, String.toList_ofList, hstart, List.reverse_append, hend, List.reverse_append,
    List.reverse_reverse, List.filter_append, hall]

/-- The scheme ends at the first colon. -/
theorem splitScheme?_append {scheme : List Char} (hstart : scheme.head?.any Char.isAlpha = true)
    (hmem : ∀ c ∈ scheme, isSchemeChar c = true) (rest : List Char) :
    splitScheme? (scheme ++ ':' :: rest) =
      some (String.ofList (scheme.map Char.toLower), rest) := by
  have hcolon : isSchemeChar ':' = false := by decide
  have hhead : (scheme ++ ':' :: rest).head?.any Char.isAlpha = true := by
    cases scheme with
    | nil => cases hstart
    | cons c cs => exact hstart
  rw [splitScheme?, if_pos hhead, List.dropWhile_append_of_pos hmem,
    List.takeWhile_append_of_pos hmem, List.dropWhile_cons_of_neg (by simp [hcolon]), List.takeWhile_cons_of_neg (by simp [hcolon]),
    List.append_nil]
  rfl

/-- Characters that end no authority belong to it, whatever follows. -/
theorem splitAuthority_append {backslash : Bool} {pre : List Char}
    (h : ∀ c ∈ pre, endsAuthority backslash c = false) (rest : List Char) :
    splitAuthority backslash (pre ++ rest) =
      (pre ++ (splitAuthority backslash rest).1, (splitAuthority backslash rest).2) := by
  have hpre : ∀ c ∈ pre, (!endsAuthority backslash c) = true := fun c hc => by rw [h c hc]; rfl
  rw [splitAuthority, splitAuthority, List.takeWhile_append_of_pos hpre,
    List.dropWhile_append_of_pos hpre]

/-- The last sign of an authority is behind every other one. -/
theorem exists_splitUser_append (authority : List Char) :
    ∃ more host, ∀ pre : List Char,
      splitUser (pre ++ '@' :: authority) = (some (pre ++ more), host) := by
  -- the host is behind the last sign, which is this one or a later one, whatever stands before
  obtain ⟨host, hhost⟩ : ∃ host, host = (authority.reverse.takeWhile (· ≠ '@')).reverse := ⟨_, rfl⟩
  have hlength : host.length ≤ authority.length := by
    have hpart : authority.reverse.takeWhile (· ≠ '@') <+: authority.reverse :=
      List.takeWhile_prefix _
    simpa [hhost] using hpart.length_le
  refine ⟨('@' :: authority).take (authority.length - host.length), host, fun pre => ?_⟩
  have hsame : ((pre ++ '@' :: authority).reverse.takeWhile (· ≠ '@')).reverse = host := by
    rw [List.reverse_append, List.reverse_cons, List.append_assoc, List.singleton_append,
      takeWhile_ne_append_cons, hhost]
  have hcount : (pre ++ '@' :: authority).length - host.length - 1 =
      pre.length + (authority.length - host.length) := by
    simp only [List.length_append, List.length_cons]
    omega
  have hne : host.length ≠ (pre ++ '@' :: authority).length := by
    simp only [List.length_append, List.length_cons]
    omega
  simp only [splitUser, hsame, if_neg hne, hcount, List.take_length_add_append]

/-- The user goes up to the first colon, and all behind it is the password. -/
theorem userAndPassword_append {user : List Char} (h : ':' ∉ user) (password : List Char) :
    userAndPassword (user ++ ':' :: password) = (user, password) := by
  have huser : ∀ c ∈ user, decide (c ≠ ':') = true := by
    intro c hc
    exact decide_eq_true fun heq => h (heq ▸ hc)
  have hname : (user ++ ':' :: password).takeWhile (fun c => decide (c ≠ ':')) = user := by
    rw [List.takeWhile_append_of_pos huser, List.takeWhile_cons_of_neg (by simp), List.append_nil]
  rw [userAndPassword, hname]
  simp

/-! ## Faults of other kinds -/

/-- Nothing is said of schemes that are not spoken. -/
def SparesScheme {α : Type} (r : Except UrlFault α) : Prop :=
  ∀ name, r ≠ .error (.foreignScheme name)

section SparesScheme

variable {α β : Type}

theorem sparesScheme_ok (a : α) : SparesScheme (.ok a) := nofun

/-- Two steps that do not fail for the scheme do not fail for it together. -/
theorem SparesScheme.bind {r : Except UrlFault α} {f : α → Except UrlFault β} (hr : SparesScheme r)
    (hf : ∀ a, SparesScheme (f a)) : SparesScheme (r >>= f) := by
  cases r with
  | error e =>
    rintro name ⟨⟩
    exact hr name rfl
  | ok a => exact hf a

/-- A host may be found to be missing on the way. -/
theorem SparesScheme.unlessEmpty {r : Except UrlFault α} (h : SparesScheme r) (missing : Prop)
    [Decidable missing] :
    SparesScheme
      (if missing then (throw .emptyHost : Except UrlFault PUnit) >>= fun _ => r else r) := by
  split
  · exact nofun
  · exact h

/-- Reading an address in brackets does not fail for the scheme. -/
theorem sparesScheme_bracketed? (cs : List Char) : SparesScheme (Host.bracketed? cs) := by
  unfold Host.bracketed?
  split
  · split <;> exact nofun
  · exact nofun

theorem sparesScheme_host (cs : List Char) : SparesScheme (Host.ofText? cs) := by
  unfold Host.ofText?
  split
  · exact sparesScheme_bracketed? cs
  · dsimp only
    split
    · exact nofun
    · exact nofun
    · split
      · split <;> exact nofun
      · exact nofun

theorem SparesScheme.map {r : Except UrlFault α} (h : SparesScheme r) (f : α → β) :
    SparesScheme (r.map f) := by
  cases r with
  | error e =>
    rintro name ⟨⟩
    exact h name rfl
  | ok a => exact nofun

theorem sparesScheme_checkOpaque (cs : List Char) : SparesScheme (Host.checkOpaque cs) := by
  unfold Host.checkOpaque
  split
  · exact (sparesScheme_bracketed? cs).map _
  · split <;> exact nofun

theorem sparesScheme_portAfter (cs : List Char) : SparesScheme (portAfter cs) := by
  unfold portAfter readPort?
  split
  · split
    · exact nofun
    · split
      · dsimp only
        split <;> exact nofun
      · exact nofun
  · exact nofun

theorem sparesScheme_hostAndPort (cs : List Char) : SparesScheme (hostAndPort cs) :=
  SparesScheme.unlessEmpty (SparesScheme.bind (sparesScheme_host _) fun _ =>
    SparesScheme.bind (sparesScheme_portAfter _) fun _ => sparesScheme_ok _) _

/-- Reading what stands behind a web scheme does not fail for the scheme. -/
theorem sparesScheme_readWeb (scheme : WebScheme) (cs : List Char) :
    SparesScheme (readWeb scheme cs) :=
  SparesScheme.bind (sparesScheme_hostAndPort _) fun _ => sparesScheme_ok _

theorem sparesScheme_checkHosted (cs : List Char) : SparesScheme (checkHosted cs) :=
  SparesScheme.bind (sparesScheme_hostAndPort _) fun _ => sparesScheme_ok _

theorem sparesScheme_checkFile (cs : List Char) : SparesScheme (checkFile cs) := by
  unfold checkFile
  split
  · split
    · dsimp only
      split
      · exact nofun
      · exact (sparesScheme_host _).map _
    · exact nofun
  · exact nofun

theorem sparesScheme_checkOther (cs : List Char) : SparesScheme (checkOther cs) := by
  unfold checkOther
  split
  · refine SparesScheme.unlessEmpty (SparesScheme.bind (sparesScheme_checkOpaque _) fun _ => ?_) _
    refine SparesScheme.unlessEmpty (SparesScheme.bind (sparesScheme_portAfter _) fun _ => ?_) _
    exact SparesScheme.unlessEmpty (sparesScheme_ok _) _
  · exact sparesScheme_ok _

end SparesScheme

/-- A scheme that is not spoken is the one that the text starts with. -/
theorem splitScheme?_of_foreignScheme {text name : String}
    (h : ofText? text = .error (.foreignScheme name)) :
    ∃ rest, splitScheme? (cleaned text) = some (name, rest) := by
  unfold ofText? at h
  split at h
  · cases h
  · rename_i scheme rest hscheme
    -- no reader names a scheme in its faults: that is done here, once it has found none
    have hrefused : ∀ verdict : Except UrlFault Unit, SparesScheme verdict →
        (verdict.bind fun _ => (.error (.foreignScheme scheme) : Except UrlFault Url)) =
          .error (.foreignScheme name) → scheme = name := by
      rintro (e | ⟨⟩) hverdict ⟨⟩
      · exact absurd rfl (hverdict name)
      · rfl
    refine ⟨rest, ?_⟩
    dsimp only at h
    split at h
    · exact absurd h (sparesScheme_readWeb _ _ name)
    · rw [hscheme, hrefused _ (sparesScheme_checkHosted _) h]
    · rw [hscheme, hrefused _ (sparesScheme_checkFile _) h]
    · rw [hscheme, hrefused _ (sparesScheme_checkOther _) h]

/-! ## Texts with a place for the password -/

/-- To escape a text that is not empty leaves something. -/
theorem escape_ne_empty (escapes : List Char) {cs : List Char} (h : cs ≠ []) :
    escape escapes cs ≠ "" := by
  obtain ⟨c, cs, rfl⟩ := List.exists_cons_of_ne_nil h
  have hfirst : escapeChar escapes c ≠ [] := by
    unfold escapeChar
    split
    · unfold Text.encodeChar
      dsimp only
      repeat' split
      all_goals simp [escapeByte]
    · exact List.cons_ne_nil _ _
  simp [escape, hfirst]

/-- A text of a URL that starts with a scheme and a user, with a place for the password. -/
structure LoginText where
  scheme : String
  user : String
  /-- What follows the password and its sign. -/
  rest : String
  scheme_start : scheme.toList.head?.any Char.isAlpha = true
  scheme_mem : ∀ c ∈ scheme.toList, isSchemeChar c = true
  user_isWord : IsWord user

namespace LoginText

variable (l : LoginText)

/-- The text with a password. -/
def text (password : String) : String :=
  l.scheme ++ "://" ++ l.user ++ ":" ++ password ++ "@" ++ l.rest

/-- The scheme in lower case. -/
def schemeName : String := String.ofList (l.scheme.toList.map Char.toLower)

/-- The user and the password as characters, with what follows. -/
def login (password : String) (rest : List Char) : List Char :=
  l.user.toList ++ ':' :: (password.toList ++ '@' :: rest)

/-- A text is its scheme, the slashes, and the login with the rest. -/
theorem toList_text (password : String) :
    (l.text password).toList =
      l.scheme.toList ++ ':' :: '/' :: '/' :: l.login password l.rest.toList := by
  simp [text, login]

/-- The characters of a scheme are visible. -/
theorem visible_of_isSchemeChar {c : Char} (h : isSchemeChar c = true) : 0x20 < c.toNat := by
  simp only [isSchemeChar, Bool.or_eq_true, beq_iff_eq] at h
  rcases h with ((h | rfl) | rfl) | rfl
  · have hcode := code_of_isAlphanum h
    omega
  all_goals decide

/-- Cleaning such a text touches only what stands behind the login, so that its scheme is split off
whatever the password. -/
theorem exists_splitScheme?_text :
    ∃ rest, ∀ password, IsWord password →
      splitScheme? (cleaned (l.text password)) =
        some (l.schemeName, '/' :: '/' :: l.login password rest) := by
  obtain ⟨rest, hrest⟩ := exists_cleaned_append l.rest.toList
  refine ⟨rest, fun password hpassword => ?_⟩
  -- up to the sign there are no blanks that would be taken away
  have hvisible : ∀ c ∈ l.scheme.toList ++ ':' :: '/' :: '/' :: l.login password [],
      0x20 < c.toNat := by
    have hword : ∀ s : String, IsWord s → ∀ c ∈ s.toList, 0x20 < c.toNat := by
      intro s hs c hc
      have hcode := code_of_isAlphanum (hs.2 c hc)
      omega
    simp only [login, List.forall_mem_append, List.forall_mem_cons]
    exact ⟨fun c hc => visible_of_isSchemeChar (l.scheme_mem c hc), by decide, by decide, by decide,
      hword _ l.user_isWord, by decide, hword _ hpassword, by decide, by simp⟩
  have hcleaned := hrest _ (by simp) hvisible
  have htext : l.scheme.toList ++ ':' :: '/' :: '/' :: l.login password [] ++ l.rest.toList =
      (l.text password).toList := by
    rw [toList_text]
    simp [login]
  rw [htext, String.ofList_toList] at hcleaned
  rw [hcleaned, List.append_assoc]
  have hsplit := splitScheme?_append l.scheme_start l.scheme_mem
    ('/' :: '/' :: l.login password rest)
  simpa [login, schemeName] using hsplit

/-- No character of a word ends the authority or the user. -/
theorem endsAuthority_eq_false {s : String} (hs : IsWord s) {c : Char} (hc : c ∈ s.toList) :
    endsAuthority true c = false ∧ c ≠ ':' := by
  have hcode := code_of_isAlphanum (hs.2 c hc)
  have hne : ∀ sign ∈ ['/', '?', '#', '\\', ':'], c ≠ sign := by
    rintro sign hsign rfl
    simp only [List.mem_cons, List.not_mem_nil, or_false] at hsign
    rcases hsign with rfl | rfl | rfl | rfl | rfl <;> exact absurd hcode (by decide)
  simp only [List.forall_mem_cons] at hne
  obtain ⟨hslash, hquery, hfragment, hback, hcolon, -⟩ := hne
  simp [endsAuthority, hslash, hquery, hfragment, hback, hcolon]

/-- The slashes before a login, and what the authority of the login is. -/
theorem splitAuthority_login {password : String} (h : IsWord password) (rest : List Char) :
    splitAuthority true (('/' :: '/' :: l.login password rest).dropWhile
        fun c => decide (c = '/' ∨ c = '\\')) =
      (l.login password (splitAuthority true rest).1, (splitAuthority true rest).2) := by
  have hslashes : ('/' :: '/' :: l.login password rest).dropWhile
      (fun c => decide (c = '/' ∨ c = '\\')) = l.login password rest := by
    obtain ⟨c, cs, hcs⟩ :=
      List.exists_cons_of_ne_nil (mt String.toList_eq_nil_iff.mp l.user_isWord.1)
    have hc := (endsAuthority_eq_false l.user_isWord (hcs ▸ List.mem_cons_self)).1
    simp only [endsAuthority, Bool.or_eq_false_iff, Bool.true_and, beq_eq_false_iff_ne] at hc
    simp [login, hcs, hc.1.1.1, hc.2]
  have hlogin : ∀ c ∈ l.login password [], endsAuthority true c = false := by
    simp only [login, List.forall_mem_append, List.forall_mem_cons]
    exact ⟨fun c hc => (endsAuthority_eq_false l.user_isWord hc).1, by decide,
      fun c hc => (endsAuthority_eq_false h hc).1, by decide, by simp⟩
  have hsplit := splitAuthority_append hlogin rest
  have happend : ∀ rest, l.login password [] ++ rest = l.login password rest := by
    intro rest
    simp [login]
  rw [hslashes, ← happend rest, hsplit, happend]

/-- The login of a web URL is read as what it is, and the host behind it as without it. -/
theorem readWeb_login (scheme : WebScheme) (rest : List Char) :
    (∃ fault, ∀ password, IsWord password →
      readWeb scheme ('/' :: '/' :: l.login password rest) = .error fault) ∨
    ∃ (u : Url) (more : List Char), u.username ≠ "" ∧ ∀ password, IsWord password →
      readWeb scheme ('/' :: '/' :: l.login password rest) =
        .ok { u with password := escape userEscapes (password.toList ++ more) } := by
  -- with another sign further on, what is between the two belongs to the password
  obtain ⟨more, host, hsplit⟩ := exists_splitUser_append (splitAuthority true rest).1
  have huser : ∀ password, splitUser (l.login password (splitAuthority true rest).1) =
      (some (l.user.toList ++ ':' :: (password.toList ++ more)), host) := by
    intro password
    have h := hsplit (l.user.toList ++ ':' :: password.toList)
    simpa [login] using h
  have hname : ':' ∉ l.user.toList := fun hmem =>
    (endsAuthority_eq_false l.user_isWord hmem).2 rfl
  rcases hhost : hostAndPort host with fault | ⟨name, port⟩
  · refine Or.inl ⟨fault, fun password hpassword => ?_⟩
    simp only [readWeb, splitAuthority_login l hpassword, huser, hhost]
    rfl
  · let behind := splitAtFirst '#' (splitAuthority true rest).2
    let u : Url := {
      scheme, username := escape userEscapes l.user.toList, password := "", host := name
      port := port.filter (· ≠ scheme.port)
      path := readPath (splitAtFirst '?' behind.1).1
      query := (splitAtFirst '?' behind.1).2.map (escape queryEscapes)
      fragment := behind.2.map (escape fragmentEscapes) }
    refine Or.inr ⟨u, more, escape_ne_empty _ (by simpa using l.user_isWord.1),
      fun password hpassword => ?_⟩
    simp only [readWeb, splitAuthority_login l hpassword, huser, hhost, Option.getD_some,
      userAndPassword_append hname]
    rfl

/-- A URL is refused for all passwords, or read for all with the password at its start. -/
theorem ofText?_cases :
    (∀ password, IsWord password → ∃ fault, ofText? (l.text password) = .error fault) ∨
    ∃ (u : Url) (more : List Char), u.username ≠ "" ∧ ∀ password, IsWord password →
      ofText? (l.text password) =
        .ok { u with password := escape userEscapes (password.toList ++ more) } := by
  obtain ⟨rest, hsplit⟩ := l.exists_splitScheme?_text
  have hrefused : ∀ verdict : Except UrlFault Unit, ∃ fault,
      (verdict.bind fun _ => (.error (.foreignScheme l.schemeName) : Except UrlFault Url)) =
        .error fault := by
    rintro (e | ⟨⟩) <;> exact ⟨_, rfl⟩
  -- the scheme decides how the rest is read, and it is the same for all passwords
  cases hkind : SchemeKind.ofName l.schemeName with
  | web scheme =>
    have hread : ∀ password, IsWord password →
        ofText? (l.text password) = readWeb scheme ('/' :: '/' :: l.login password rest) := by
      intro password hpassword
      simp only [ofText?, hsplit password hpassword, hkind]
    rcases l.readWeb_login scheme rest with ⟨fault, hfault⟩ | ⟨u, more, hname, hurl⟩
    · exact Or.inl fun p hp => ⟨fault, (hread p hp).trans (hfault p hp)⟩
    · exact Or.inr ⟨u, more, hname, fun p hp => (hread p hp).trans (hurl p hp)⟩
  | _ =>
    refine Or.inl fun password hpassword => ?_
    simp only [ofText?, hsplit password hpassword, hkind]
    exact hrefused _

/-- A scheme that is not spoken is refused under one name. -/
theorem eq_schemeName_of_foreignScheme {password name : String} (hpassword : IsWord password)
    (h : ofText? (l.text password) = .error (.foreignScheme name)) : name = l.schemeName := by
  obtain ⟨rest, hsplit⟩ := l.exists_splitScheme?_text
  obtain ⟨rest', hname⟩ := splitScheme?_of_foreignScheme h
  rw [hsplit password hpassword] at hname
  cases hname
  rfl

end LoginText

end Url

end ClusterMonitor

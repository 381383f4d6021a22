import ClusterMonitor.Proofs.Redaction.Patterns
import ClusterMonitor.Proofs.Regex.Search
import ClusterMonitor.Proofs.Unicode.CharSet
import Mathlib.Data.List.TakeWhile

/-!
# Credentials in a text

What the built-in patterns match.

* `Login`, `exists_login` and `matchAt?_login` — the matches in URLs are the users with their passwords.
* `Authorization` and `exists_authorization` — what a match of an authorization header has taken.
* `Pair` and `exists_pair` — what a match of a key and its value has taken; `matchAt?_assigned` — the
  match itself, where an unquoted value follows a key at once.
-/

namespace ClusterMonitor.Credentials

open Regex Unicode

/-! ## Characters of the parts -/

/-- A character that is not in a set is none of those that are. -/
theorem notMem_of_contains {s : CharSet} {xs : List Char} (h : ∀ c ∈ xs, s.contains c = true)
    {d : Char} (hd : s.contains d = false) : d ∉ xs := by
  intro hmem
  rw [h d hmem] at hd
  cases hd

/-- What goes on until some marks or a blank is made of all other characters. -/
theorem contains_stops_negate {marks : List Char} {c : Char} :
    ((CharSet.ofChars marks).union blankSet).negate.contains c = true ↔
      c ∉ marks ∧ isBlank c = false := by
  have hmarks := CharSet.increasing_ofChars marks
  have hblanks : Increasing blankSet.ranges := by decide
  rw [CharSet.contains_negate (CharSet.increasing_union hmarks hblanks), Bool.not_eq_true',
    Bool.eq_false_iff, ne_eq, CharSet.contains_union hmarks hblanks, CharSet.contains_ofChars, not_or,
    isBlank, Bool.not_eq_true]

/-- No visible ASCII character is a blank. -/
theorem isBlank_eq_false {c : Char} (hlow : 0x20 < c.toNat) (hhigh : c.toNat < 0x85) :
    isBlank c = false := by
  rw [Bool.eq_false_iff, isBlank, CharSet.contains, ne_eq, CharSet.inRanges_iff (by decide)]
  simp only [blankSet, List.mem_cons, List.not_mem_nil, or_false, exists_eq_or_imp, exists_eq_left]
  omega

/-! ## Logins in URLs -/

/-- What a slice between two parts of a text is. -/
theorem slice_middle (xs ys zs : List Char) {i j : Nat} (hi : i = xs.length)
    (hj : j = xs.length + ys.length) : slice (xs ++ (ys ++ zs)) i j = ys := by
  subst hi hj
  simp [slice]

/-- A group with a name is found under its number. -/
theorem named?_of_names {e : Expression} {names : List (String × Nat)} (h : e.names = names)
    {name : String} {number : Nat} (hname : names.lookup name = some number) (m : Match)
    (cs : List Char) : m.named? e cs name = m.group? cs number := by
  unfold Match.named?
  rw [h, hname]

/-- A user and a password as they stand in a URL. -/
structure Login where
  initial : Char
  others : List Char
  user : List Char
  pass : List Char
  initial_mem : letterSet.contains initial = true
  others_mem : ∀ c ∈ others, schemeSet.contains c = true
  user_ne : user ≠ []
  user_mem : ∀ c ∈ user, userStops.negate.contains c = true
  pass_ne : pass ≠ []
  pass_mem : ∀ c ∈ pass, passwordStops.negate.contains c = true

namespace Login

/-- The scheme with its slashes. -/
def scheme (l : Login) : List Char := l.initial :: l.others ++ slashes

def text (l : Login) : List Char := l.scheme ++ (l.user ++ ':' :: (l.pass ++ ['@']))

/-- The match of the whole. -/
def found (l : Login) : Match :=
  let user := l.scheme.length
  let pass := user + l.user.length + 1
  ⟨0, l.text.length,
    [(3, pass, pass + l.pass.length), (2, user, user + l.user.length), (1, 0, user)]⟩

variable (l : Login) (rest : List Char)

/-- The first group of a login is its scheme, with the slashes. -/
theorem named?_scheme : l.found.named? inUrl (l.text ++ rest) "scheme" = some l.scheme := by
  have h := slice_middle [] l.scheme
    (l.user ++ ':' :: (l.pass ++ '@' :: rest)) (i := 0) (j := l.scheme.length) rfl (by simp)
  rw [named?_of_names inUrl_names rfl]
  simpa [Match.group?, found, text] using h

/-- The second group is the user. -/
theorem named?_user : l.found.named? inUrl (l.text ++ rest) "user" = some l.user := by
  have h := slice_middle l.scheme l.user (':' :: (l.pass ++ '@' :: rest)) rfl rfl
  rw [named?_of_names inUrl_names rfl]
  simpa [Match.group?, found, text] using h

/-- The third group is the password. -/
theorem named?_pass : l.found.named? inUrl (l.text ++ rest) "pass" = some l.pass := by
  have h := slice_middle (l.scheme ++ (l.user ++ [':'])) l.pass ('@' :: rest)
    (i := l.scheme.length + l.user.length + 1) (by simp; omega) rfl
  rw [named?_of_names inUrl_names rfl]
  simpa [Match.group?, found, text, Nat.add_assoc] using h

end Login

/-- Single characters are spelled by the texts that begin with them. -/
theorem spells_singletons (ys xs : List Char) :
    spells (ys.map CharSet.singleton) xs = ys.isPrefixOf xs := by
  induction ys generalizing xs with
  | nil => simp [Regex.spells]
  | cons y ys ih =>
    cases xs with
    | nil => rfl
    | cons x xs =>
      have hx : (CharSet.singleton y).contains x = (y == x) := by
        rw [Bool.eq_iff_iff, CharSet.contains_singleton, beq_iff_eq]
        exact eq_comm
      rw [List.map_cons, Regex.spells, ih, hx, List.isPrefixOf_cons_cons]

/-- A scheme begins at the edge of a word, with a letter, and ends with its slashes. -/
theorem takes_of_mem_schemeBody {t u : Thread} (h : u ∈ outcomes schemeBody t) :
    wordEdge.holds t.place = true ∧
      ∃ c others, letterSet.contains c = true ∧ (∀ d ∈ others, schemeSet.contains d = true) ∧
        Takes t (c :: others ++ slashes) u := by
  -- the parts in the order of the pattern: the edge, a letter, more of the scheme, the slashes
  obtain ⟨v, hv, hu⟩ := mem_of_mem_andThen h
  obtain ⟨rfl, hedge⟩ := eq_of_mem_look hv
  obtain ⟨w, hw, hu⟩ := mem_of_mem_andThen hu
  obtain ⟨c, hc, hinitial⟩ := takes_of_mem_set hw
  obtain ⟨x, hx, hu⟩ := mem_of_mem_andThen hu
  obtain ⟨others, hothers, hmore⟩ := takes_of_mem_zeroOrMore hx
  obtain ⟨xs, hlength, hxs, hslashes⟩ := takes_of_mem_spelled hu
  rw [spells_singletons, List.isPrefixOf_iff_prefix] at hxs
  obtain rfl : slashes = xs := hxs.eq_of_length (by rw [hlength, List.length_map])
  exact ⟨hedge, c, others, hc, hothers, hinitial.append hmore |>.append hslashes⟩

/-- A match of the pattern of URLs is a login, where a word starts or ends. -/
theorem exists_login {before : Option Char} {cs : List Char} {m : Match}
    (h : matchAt? inUrl.body ⟨0, before, cs⟩ = some m) :
    wordEdge.holds ⟨0, before, cs⟩ = true ∧
      ∃ (l : Login) (rest : List Char), cs = l.text ++ rest ∧ m = l.found := by
  rw [inUrl_eq] at h
  obtain ⟨u, hu, rfl⟩ := Option.map_eq_some_iff.mp h
  -- each part goes on where the one before has stopped, with the groups that it has left
  obtain ⟨v, hv, hu⟩ := mem_of_mem_andThen (List.mem_of_mem_head? hu)
  obtain ⟨v', hv', hscheme⟩ := captures_of_mem_group hv
  obtain ⟨hedge, c, others, hc, hothers, htakes⟩ := takes_of_mem_schemeBody hv'
  replace hscheme := hscheme _ htakes
  obtain ⟨w, hw, hu⟩ := mem_of_mem_andThen hu
  obtain ⟨w', hw', huser⟩ := captures_of_mem_group hw
  obtain ⟨user, huserNe, huserMem, htakes⟩ := takes_of_mem_oneOrMore hw'
  replace huser := huser _ htakes
  obtain ⟨x, hx, hu⟩ := mem_of_mem_andThen hu
  obtain ⟨colon, hcolonMem, hcolon⟩ := takes_of_mem_set hx
  obtain rfl := (CharSet.contains_singleton _ _).mp hcolonMem
  obtain ⟨y, hy, hu⟩ := mem_of_mem_andThen hu
  obtain ⟨y', hy', hpass⟩ := captures_of_mem_group hy
  obtain ⟨pass, hpassNe, hpassMem, htakes⟩ := takes_of_mem_oneOrMore hy'
  replace hpass := hpass _ htakes
  obtain ⟨sign, hsignMem, hsign⟩ := takes_of_mem_set hu
  obtain rfl := (CharSet.contains_singleton _ _).mp hsignMem
  have hrest := hscheme.rest
  rw [huser.rest, hcolon.rest, hpass.rest, hsign.rest] at hrest
  refine ⟨hedge, ⟨c, others, user, pass, hc, hothers, huserNe, huserMem, hpassNe, hpassMem⟩,
    u.place.rest, ?_, ?_⟩
  · simpa [Login.text, Login.scheme] using hrest
  · simp [Login.found, Login.text, Login.scheme, hscheme.index, huser.index, hcolon.index,
      hpass.index, hsign.index, hscheme.groups, huser.groups, hcolon.groups, hpass.groups,
      hsign.groups, Nat.add_assoc]
    omega

/-- The same, where the text that the match covers is known. -/
theorem exists_login_of_stop {before : Option Char} {xs rest : List Char} {m : Match}
    (h : matchAt? inUrl.body ⟨0, before, xs ++ rest⟩ = some m) (hstop : m.stop = xs.length) :
    ∃ l : Login, xs = l.text ∧ m = l.found := by
  obtain ⟨-, l, rest', hcs, rfl⟩ := exists_login h
  exact ⟨l, (List.append_inj hcs hstop.symm).1, rfl⟩

/-- The pattern prefers the scheme of a login as a whole. -/
theorem prefers_schemeBody {t : Thread} {l : Login} {rest : List Char}
    (ht : t.place.rest = l.scheme ++ rest) (hedge : wordEdge.holds t.place = true) :
    Prefers schemeBody t l.scheme := by
  -- no scheme has the colon that the slashes start with, so the loop gives nothing back
  have hcolon : ∀ c ∈ (slashes ++ rest).head?, schemeSet.contains c = false := by
    rintro c ⟨⟩
    decide
  have hothers : ∀ u, Takes t [l.initial] u →
      Prefers (.seq (zeroOrMore schemeSet) (spelled (slashes.map .singleton))) u
        (l.others ++ slashes) := by
    intro u hu
    have hrest : u.place.rest = l.others ++ (slashes ++ rest) := by
      have h := hu.rest.symm.trans ht
      simpa [Login.scheme] using h
    refine (prefers_zeroOrMore hrest l.others_mem hcolon).seq fun v hv => ?_
    have hrest' := List.append_cancel_left (hv.rest.symm.trans hrest)
    exact prefers_spelled hrest' (by simp) (by simp [spells_singletons])
  intro α k a hk h
  rw [schemeBody, first_seq hk, first_look, if_pos hedge]
  exact ((prefers_set ht l.initial_mem).seq hothers).first_eq_some hk h

/-- The pattern of URLs matches every login where a word starts or ends. -/
theorem matchAt?_login {before : Option Char} {l : Login} {rest : List Char}
    (hedge : wordEdge.holds ⟨0, before, l.text ++ rest⟩ = true) :
    matchAt? inUrl.body ⟨0, before, l.text ++ rest⟩ = some l.found := by
  have hcolon : ∀ c ∈ (':' :: (l.pass ++ '@' :: rest)).head?, userStops.negate.contains c = false := by
    rintro c ⟨⟩
    decide
  have hsign : ∀ c ∈ ('@' :: rest).head?, passwordStops.negate.contains c = false := by
    rintro c ⟨⟩
    decide
  -- both loops end at a sign that their set leaves out, so each part takes what is meant for it
  have hk := placeOnly_some fun t : Thread => (⟨0, t.place.index, t.groups⟩ : Match)
  have htext : l.text ++ rest = l.scheme ++ (l.user ++ ':' :: (l.pass ++ '@' :: rest)) := by
    simp [Login.text]
  rw [htext] at hedge
  rw [matchAt?_eq_first, inUrl_eq, htext]
  dsimp only
  rw [first_seq hk]
  refine (prefers_schemeBody rfl hedge).first_group (hk.first _) fun u hu => ?_
  have hrest := List.append_cancel_left hu.rest.symm
  rw [first_seq hk]
  refine (prefers_oneOrMore l.user_ne hrest l.user_mem hcolon).first_group (hk.first _) fun v hv => ?_
  replace hrest := List.append_cancel_left (hv.rest.symm.trans hrest)
  rw [first_seq hk]
  refine (prefers_set hrest (by decide)).first_eq_some (hk.first _) fun w hw => ?_
  replace hrest := List.append_cancel_left (hw.rest.symm.trans hrest)
  rw [first_seq hk]
  refine (prefers_oneOrMore l.pass_ne hrest l.pass_mem hsign).first_group (hk.first _) fun x hx => ?_
  replace hrest := List.append_cancel_left (hx.rest.symm.trans hrest)
  refine (prefers_set hrest (by decide)).first_eq_some hk fun y hy => ?_
  simp [Login.found, Login.text, hu.index, hv.index, hw.index, hx.index, hy.index, hu.groups,
    hv.groups, hw.groups, hx.groups, hy.groups, Nat.add_assoc]
  omega

/-! ## Words in any case -/

/-- The characters are those of the word, each in any case. -/
structure Spells (word : String) (xs : List Char) : Prop where
  length : xs.length = (caselessSets word).length
  spells : spells (caselessSets word) xs = true

/-- One of several words takes characters that spell one of them. -/
theorem takes_of_mem_oneOf {words : List String} (hwords : words ≠ []) {t u : Thread}
    (h : u ∈ outcomes (oneOf words) t) : ∃ word ∈ words, ∃ xs, Spells word xs ∧ Takes t xs u := by
  obtain ⟨r, hr, hu⟩ := exists_of_mem_choice (by simpa using hwords) h
  obtain ⟨word, hword, rfl⟩ := List.mem_map.mp hr
  obtain ⟨xs, hlength, hxs, htakes⟩ := takes_of_mem_spelled hu
  exact ⟨word, hword, xs, ⟨hlength, hxs⟩, htakes⟩

/-- A word and what follows it: the word is spelled, and the rest goes on behind it. -/
theorem takes_of_mem_spelledThen {sets : List CharSet} {r : Regex} {t u : Thread}
    (h : u ∈ outcomes (spelledThen sets r) t) :
    ∃ xs v, xs.length = sets.length ∧ spells sets xs = true ∧ Takes t xs v ∧ u ∈ outcomes r v := by
  induction sets generalizing t with
  | nil => exact ⟨[], t, rfl, rfl, .refl t, h⟩
  | cons s sets ih =>
    obtain ⟨v, hv, hu⟩ := mem_of_mem_andThen h
    obtain ⟨c, hc, hone⟩ := takes_of_mem_set hv
    obtain ⟨xs, w, hlength, hxs, htakes, hu⟩ := ih hu
    exact ⟨c :: xs, w, congrArg Nat.succ hlength, by simp [Regex.spells, hc, hxs],
      hone.append htakes, hu⟩

/-- Each character of a spelled word is in one of its sets. -/
theorem exists_of_mem_of_spells {sets : List CharSet} {xs : List Char}
    (hlength : xs.length = sets.length) (h : spells sets xs = true) {c : Char} (hc : c ∈ xs) :
    ∃ s ∈ sets, s.contains c = true := by
  induction xs generalizing sets with
  | nil => cases hc
  | cons x xs ih =>
    cases sets with
    | nil => cases hlength
    | cons s sets =>
      rw [Regex.spells, Bool.and_eq_true] at h
      rcases List.mem_cons.mp hc with rfl | hc
      · exact ⟨s, List.mem_cons_self, h.1⟩
      · obtain ⟨s', hs', hcs'⟩ := ih (Nat.succ.inj hlength) h.2 hc
        exact ⟨s', List.mem_cons_of_mem s hs', hcs'⟩

/-- Each set of a spelled word has one of its characters. -/
theorem exists_mem_of_spells {sets : List CharSet} {xs : List Char} (hlength : xs.length = sets.length)
    (h : spells sets xs = true) {s : CharSet} (hs : s ∈ sets) : ∃ c ∈ xs, s.contains c = true := by
  induction sets generalizing xs with
  | nil => cases hs
  | cons s' sets ih =>
    cases xs with
    | nil => cases hlength
    | cons x xs =>
      rw [Regex.spells, Bool.and_eq_true] at h
      rcases List.mem_cons.mp hs with rfl | hs
      · exact ⟨x, List.mem_cons_self, h.1⟩
      · obtain ⟨c, hc, hcs⟩ := ih (Nat.succ.inj hlength) h.2 hs
        exact ⟨c, List.mem_cons_of_mem x hc, hcs⟩

/-- A character that the word has in no case. -/
theorem Spells.notMem {word : String} {xs : List Char} (h : Spells word xs) {c : Char}
    (hc : ∀ s ∈ caselessSets word, s.contains c = false) : c ∉ xs := by
  intro hmem
  obtain ⟨s, hs, hcs⟩ := exists_of_mem_of_spells h.length h.spells hmem
  rw [hc s hs] at hcs
  cases hcs

/-- The preferred way through characters of a set, where nothing has to follow, takes a whole run. -/
theorem exists_run_of_first {s : CharSet} {f : Nat → Groups → Match} {t : Thread} {m : Match}
    (h : first (oneOrMore s) (fun u => some (f u.place.index u.groups)) t = some m) :
    ∃ xs rest, xs ≠ [] ∧ (∀ c ∈ xs, s.contains c = true) ∧
      (∀ c ∈ rest.head?, s.contains c = false) ∧ t.place.rest = xs ++ rest ∧
        m = f (t.place.index + xs.length) t.groups := by
  -- the preferred way takes the whole run, and there is only one preferred way
  have hk := placeOnly_some fun u : Thread => f u.place.index u.groups
  have hsplit := (List.takeWhile_append_dropWhile (p := s.contains) (l := t.place.rest)).symm
  have hxs : ∀ c ∈ t.place.rest.takeWhile s.contains, s.contains c = true := fun c hc =>
    List.mem_takeWhile_imp hc
  have hrest : ∀ c ∈ (t.place.rest.dropWhile s.contains).head?, s.contains c = false := by
    intro c hc
    have hhead := List.head?_dropWhile_not s.contains t.place.rest
    rw [Option.mem_def.mp hc] at hhead
    exact hhead
  have hne : t.place.rest.takeWhile s.contains ≠ [] := by
    rw [first_oneOrMore hk] at h
    cases hcs : t.place.rest with
    | nil => simp [hcs] at h
    | cons c cs =>
      rw [hcs] at h
      dsimp only at h
      split at h
      · rename_i hc
        simp [hc]
      · cases h
  have hrun := (prefers_oneOrMore hne hsplit hxs hrest).first_eq_some hk
    (a := f (t.place.index + (t.place.rest.takeWhile s.contains).length) t.groups)
    fun u hu => by rw [hu.index, hu.groups]
  exact ⟨_, _, hne, hxs, hrest, hsplit, Option.some.inj (h.symm.trans hrun)⟩

/-! ## Authorization headers -/

/-- An authorization header with what it carries. -/
structure Authorization where
  name : List Char
  gap : List Char
  gap' : List Char
  form : List Char
  blanks : List Char
  token : List Char
  name_spells : Spells "authorization" name
  gap_mem : ∀ c ∈ gap, blankSet.contains c = true
  gap'_mem : ∀ c ∈ gap', blankSet.contains c = true
  form_spells : ∃ word ∈ formWords, Spells word form
  blanks_ne : blanks ≠ []
  blanks_mem : ∀ c ∈ blanks, blankSet.contains c = true
  token_ne : token ≠ []
  token_mem : ∀ c ∈ token, tokenSet.contains c = true

namespace Authorization

/-- The name of the header and the form of authorization. -/
def opening (h : Authorization) : List Char := h.name ++ h.gap ++ ':' :: (h.gap' ++ h.form)

def text (h : Authorization) : List Char := h.opening ++ (h.blanks ++ h.token)

/-- The match of the whole. -/
def found (h : Authorization) : Match := ⟨0, h.text.length, [(1, 0, h.opening.length)]⟩

/-- The group of a header is all that comes before what it carries. -/
theorem named?_scheme (h : Authorization) (rest : List Char) :
    h.found.named? header (h.text ++ rest) "scheme" = some h.opening := by
  have hslice := slice_middle [] h.opening (h.blanks ++ (h.token ++ rest))
    (i := 0) (j := h.opening.length) rfl (by simp)
  rw [named?_of_names header_names rfl]
  simpa [Match.group?, found, text] using hslice

end Authorization

/-- A match of the pattern of headers is a header, and its token goes on as far as it can. -/
theorem exists_authorization {before : Option Char} {cs : List Char} {m : Match}
    (h : matchAt? header.body ⟨0, before, cs⟩ = some m) :
    ∃ (a : Authorization) (rest : List Char), (∀ c ∈ rest.head?, tokenSet.contains c = false) ∧
      cs = a.text ++ rest ∧ m = a.found := by
  have hk := placeOnly_some fun t : Thread => (⟨0, t.place.index, t.groups⟩ : Match)
  rw [matchAt?_eq_first, header_eq] at h
  dsimp only at h
  rw [first_seq hk, first_empty, first_seq hk] at h
  obtain ⟨w, hw, h⟩ := exists_of_first h
  obtain ⟨w', hw', hopening⟩ := captures_of_mem_group hw
  obtain ⟨name, x, hlength, hname, htakes, hw'⟩ := takes_of_mem_spelledThen hw'
  obtain ⟨x', hx', hw'⟩ := mem_of_mem_andThen hw'
  obtain ⟨gap, hgap, htakes₁⟩ := takes_of_mem_zeroOrMore hx'
  obtain ⟨y, hy, hw'⟩ := mem_of_mem_andThen hw'
  obtain ⟨colon, hcolonMem, htakes₂⟩ := takes_of_mem_set hy
  obtain rfl := (CharSet.contains_singleton _ _).mp hcolonMem
  obtain ⟨y', hy', hw'⟩ := mem_of_mem_andThen hw'
  obtain ⟨gap', hgap', htakes₃⟩ := takes_of_mem_zeroOrMore hy'
  obtain ⟨word, hword, form, hform, htakes₄⟩ := takes_of_mem_oneOf (by decide) hw'
  replace hopening := hopening _
    (htakes.append (htakes₁.append (htakes₂.append (htakes₃.append htakes₄))))
  rw [first_seq hk] at h
  obtain ⟨z, hz, h⟩ := exists_of_first h
  obtain ⟨blanks, hblanksNe, hblanksMem, hblanks⟩ := takes_of_mem_oneOrMore hz
  obtain ⟨token, rest, htokenNe, htokenMem, hstop, htoken, rfl⟩ := exists_run_of_first
    (f := fun index groups => ⟨0, index, groups⟩) h
  have hrest := hopening.rest
  rw [hblanks.rest, htoken] at hrest
  refine ⟨⟨name, gap, gap', form, blanks, token, ⟨hlength, hname⟩, hgap, hgap', ⟨word, hword, hform⟩,
    hblanksNe, hblanksMem, htokenNe, htokenMem⟩, rest, hstop, ?_, ?_⟩
  · simpa [Authorization.text, Authorization.opening] using hrest
  · simp [Authorization.found, Authorization.text, Authorization.opening, hopening.index,
      hblanks.index, hopening.groups, hblanks.groups, Nat.add_assoc]
    omega

/-- A match that takes a whole text is a header with what it carries, and could not have gone on
behind it. -/
theorem exists_authorization_of_stop {before : Option Char} {xs rest : List Char} {m : Match}
    (h : matchAt? header.body ⟨0, before, xs ++ rest⟩ = some m) (hstop : m.stop = xs.length) :
    ∃ a : Authorization, (∀ c ∈ rest.head?, tokenSet.contains c = false) ∧ xs = a.text ∧
      m = a.found := by
  obtain ⟨a, rest', hend, hcs, rfl⟩ := exists_authorization h
  obtain ⟨hxs, rfl⟩ := List.append_inj hcs hstop.symm
  exact ⟨a, hend, hxs, rfl⟩

/-! ## Keys and their values -/

/-- A value in quotation marks of a kind. -/
def IsQuoted (mark : Char) (xs : List Char) : Prop := ∃ inner, xs = mark :: inner ++ [mark] ∧ mark ∉ inner

/-- A value with what follows it: it is quoted, or it goes on as far as it can. -/
def IsValue (xs rest : List Char) : Prop :=
  IsQuoted '"' xs ∨ IsQuoted '\'' xs ∨
    xs ≠ [] ∧ (∀ c ∈ xs, valueStops.negate.contains c = true) ∧
      ∀ c ∈ rest.head?, valueStops.negate.contains c = false

/-- A key that names a secret, what stands between it and the value, and the value. -/
structure Pair where
  key : List Char
  quote : List Char
  gap : List Char
  sign : Char
  gap' : List Char
  value : List Char
  key_spells : ∃ word ∈ keyWords, Spells word key
  quote_mem : ∀ c ∈ quote, (CharSet.singleton '"').contains c = true
  gap_mem : ∀ c ∈ gap, blankSet.contains c = true
  sign_mem : (CharSet.ofChars ['=', ':']).contains sign = true
  gap'_mem : ∀ c ∈ gap', blankSet.contains c = true

namespace Pair

def sep (p : Pair) : List Char := p.quote ++ p.gap ++ p.sign :: p.gap'

def text (p : Pair) : List Char := p.key ++ (p.sep ++ p.value)

/-- The match of the whole. -/
def found (p : Pair) : Match :=
  let sep := p.key.length
  let value := sep + p.sep.length
  ⟨0, p.text.length, [(3, value, value + p.value.length), (2, sep, value), (1, 0, sep)]⟩

variable (p : Pair) (rest : List Char)

/-- The first group of a pair is the key. -/
theorem named?_key : p.found.named? pair (p.text ++ rest) "key" = some p.key := by
  have h := slice_middle [] p.key (p.sep ++ (p.value ++ rest)) (i := 0)
    (j := p.key.length) rfl (by simp)
  rw [named?_of_names pair_names rfl]
  simpa [Match.group?, found, text] using h

/-- The second group is what stands between key and value. -/
theorem named?_sep : p.found.named? pair (p.text ++ rest) "sep" = some p.sep := by
  have h := slice_middle p.key p.sep (p.value ++ rest) rfl rfl
  rw [named?_of_names pair_names rfl]
  simpa [Match.group?, found, text] using h

/-- The third group is the value. -/
theorem named?_value : p.found.named? pair (p.text ++ rest) "value" = some p.value := by
  have h := slice_middle (p.key ++ p.sep) p.value rest
    (i := p.key.length + p.sep.length) (by simp) rfl
  rw [named?_of_names pair_names rfl]
  simpa [Match.group?, found, text] using h

end Pair

/-- Between key and value there may be a quotation mark and blanks around the sign, which is always
there. -/
theorem takes_of_mem_separatorBody {t u : Thread} (h : u ∈ outcomes separatorBody t) :
    ∃ quote gap sign gap', (∀ c ∈ quote, (CharSet.singleton '"').contains c = true) ∧
      (∀ c ∈ gap, blankSet.contains c = true) ∧ (CharSet.ofChars ['=', ':']).contains sign = true ∧
        (∀ c ∈ gap', blankSet.contains c = true) ∧ Takes t (quote ++ gap ++ sign :: gap') u := by
  obtain ⟨v, hv, hu⟩ := mem_of_mem_andThen h
  obtain ⟨quote, hquote, htakes₁⟩ := takes_of_mem_optional hv
  obtain ⟨w, hw, hu⟩ := mem_of_mem_andThen hu
  obtain ⟨gap, hgap, htakes₂⟩ := takes_of_mem_zeroOrMore hw
  obtain ⟨x, hx, hu⟩ := mem_of_mem_andThen hu
  obtain ⟨sign, hsign, htakes₃⟩ := takes_of_mem_set hx
  obtain ⟨gap', hgap', htakes₄⟩ := takes_of_mem_zeroOrMore hu
  have htakes := (htakes₁.append htakes₂).append (htakes₃.append htakes₄)
  exact ⟨quote, gap, sign, gap', hquote, hgap, hsign, hgap', by simpa using htakes⟩

/-- A quoted value goes from one mark to the next. -/
theorem takes_of_mem_quotedBody {mark : Char} {t u : Thread} (h : u ∈ outcomes (quotedBody mark) t) :
    ∃ xs, IsQuoted mark xs ∧ Takes t xs u := by
  obtain ⟨v, hv, hu⟩ := mem_of_mem_andThen h
  obtain ⟨c, hc, htakes₁⟩ := takes_of_mem_set hv
  obtain ⟨w, hw, hu⟩ := mem_of_mem_andThen hu
  obtain ⟨inner, hinner, htakes₂⟩ := takes_of_mem_zeroOrMore hw
  obtain ⟨d, hd, htakes₃⟩ := takes_of_mem_set hu
  obtain rfl := (CharSet.contains_singleton _ _).mp hc
  obtain rfl := (CharSet.contains_singleton _ _).mp hd
  refine ⟨_, ⟨inner, rfl, fun hmem => ?_⟩, htakes₁.append (htakes₂.append htakes₃)⟩
  have hmark := hinner d hmem
  rw [CharSet.contains_negate (CharSet.increasing_singleton d), hd] at hmark
  cases hmark

/-- What the preferred way through a value takes, where nothing has to follow. -/
theorem exists_value_of_first {f : Nat → Groups → Match} {t : Thread} {m : Match}
    (h : first valueBody (fun u => some (f u.place.index u.groups)) t = some m) :
    ∃ xs rest, IsValue xs rest ∧ t.place.rest = xs ++ rest ∧
      m = f (t.place.index + xs.length) t.groups := by
  rw [valueBody, first_choice (placeOnly_some _) (by simp)] at h
  obtain ⟨r, hr, h⟩ := List.exists_of_findSome?_eq_some h
  have hquoted : ∀ mark, r = quotedBody mark → ∃ xs rest, IsQuoted mark xs ∧
      t.place.rest = xs ++ rest ∧ m = f (t.place.index + xs.length) t.groups := by
    rintro mark rfl
    obtain ⟨u, hu, hm⟩ := exists_of_first h
    obtain ⟨xs, hxs, htakes⟩ := takes_of_mem_quotedBody hu
    rw [htakes.index, htakes.groups] at hm
    exact ⟨xs, u.place.rest, hxs, htakes.rest, (Option.some.inj hm).symm⟩
  simp only [List.mem_cons, List.not_mem_nil, or_false] at hr
  rcases hr with hr | hr | rfl
  · obtain ⟨xs, rest, hxs, hrest, hm⟩ := hquoted '"' hr
    exact ⟨xs, rest, Or.inl hxs, hrest, hm⟩
  · obtain ⟨xs, rest, hxs, hrest, hm⟩ := hquoted '\'' hr
    exact ⟨xs, rest, Or.inr (Or.inl hxs), hrest, hm⟩
  · obtain ⟨xs, rest, hne, hxs, hstop, hrest, hm⟩ := exists_run_of_first h
    exact ⟨xs, rest, Or.inr (Or.inr ⟨hne, hxs, hstop⟩), hrest, hm⟩

/-- A match of the pattern of pairs is a pair, where a word starts or ends. -/
theorem exists_pair {before : Option Char} {cs : List Char} {m : Match}
    (h : matchAt? pair.body ⟨0, before, cs⟩ = some m) :
    wordEdge.holds ⟨0, before, cs⟩ = true ∧ ∃ (p : Pair) (rest : List Char),
      IsValue p.value rest ∧ cs = p.text ++ rest ∧ m = p.found := by
  have hk := placeOnly_some fun t : Thread => (⟨0, t.place.index, t.groups⟩ : Match)
  rw [matchAt?_eq_first, pair_eq] at h
  dsimp only at h
  rw [first_seq hk, first_empty, first_seq hk, first_look] at h
  split at h
  · rename_i hedge
    rw [first_seq hk] at h
    obtain ⟨u, hu, h⟩ := exists_of_first h
    obtain ⟨u', hu', hkey⟩ := captures_of_mem_group hu
    obtain ⟨word, hword, key, hspells, htakes⟩ := takes_of_mem_oneOf (by decide) hu'
    replace hkey := hkey _ htakes
    rw [first_seq hk] at h
    obtain ⟨v, hv, h⟩ := exists_of_first h
    obtain ⟨v', hv', hsep⟩ := captures_of_mem_group hv
    obtain ⟨quote, gap, sign, gap', hquote, hgap, hsign, hgap', htakes⟩ :=
      takes_of_mem_separatorBody hv'
    replace hsep := hsep _ htakes
    rw [first_group] at h
    obtain ⟨value, rest, hvalue, hrest, rfl⟩ := exists_value_of_first
      (f := fun index groups => ⟨0, index, (3, v.place.index, index) :: groups⟩) h
    have hcs := hkey.rest
    rw [hsep.rest, hrest] at hcs
    refine ⟨hedge, ⟨key, quote, gap, sign, gap', value, ⟨word, hword, hspells⟩, hquote, hgap, hsign,
      hgap'⟩, rest, hvalue, ?_, ?_⟩
    · simpa [Pair.text, Pair.sep] using hcs
    · simp [Pair.found, Pair.text, Pair.sep, hkey.index, hsep.index, hkey.groups, hsep.groups,
        Nat.add_assoc]
      omega
  · cases h

/-- A match that takes a whole text is a key with its value, and the value goes no further. -/
theorem exists_pair_of_stop {before : Option Char} {xs rest : List Char} {m : Match}
    (h : matchAt? pair.body ⟨0, before, xs ++ rest⟩ = some m) (hstop : m.stop = xs.length) :
    ∃ p : Pair, IsValue p.value rest ∧ xs = p.text ∧ m = p.found := by
  obtain ⟨-, p, rest', hvalue, hcs, rfl⟩ := exists_pair h
  obtain ⟨hxs, rfl⟩ := List.append_inj hcs hstop.symm
  exact ⟨p, hvalue, hxs, rfl⟩

/-- A key word is spelled by itself. -/
theorem spells_of_mem_keyWords {word : String} (h : word ∈ keyWords) : Spells word word.toList := by
  have hall : ∀ word ∈ keyWords, word.toList.length = (caselessSets word).length ∧
      spells (caselessSets word) word.toList = true := by
    decide
  exact ⟨(hall word h).1, (hall word h).2⟩

/-- No text starts with two of the words. -/
theorem spells_eq_false_of_ne {word other : String} (h : word ∈ keyWords) (hother : other ∈ keyWords)
    (hne : other ≠ word) (rest : List Char) :
    spells (caselessSets other) (word.toList ++ '=' :: rest) = false := by
  have hall : ∀ word ∈ keyWords, ∀ other ∈ keyWords, other ≠ word →
      spells ((caselessSets other).take (word.toList ++ ['=']).length) (word.toList ++ ['=']) = false := by
    decide +kernel
  have hsplit : word.toList ++ '=' :: rest = (word.toList ++ ['=']) ++ rest := by simp
  rw [hsplit, spells_append, hall word h other hother hne, Bool.false_and]

/-- A key, the sign behind it, and a value without quotation marks. -/
def Pair.assigned {word : String} (hword : word ∈ keyWords) (value : List Char) : Pair where
  key := word.toList
  quote := []
  gap := []
  sign := '='
  gap' := []
  value := value
  key_spells := ⟨word, hword, spells_of_mem_keyWords hword⟩
  quote_mem := by simp
  gap_mem := by simp
  sign_mem := by decide
  gap'_mem := by simp

/-- Before a sign, the pattern prefers a key word as a whole, and not a shorter one. -/
theorem prefers_key {word : String} (hword : word ∈ keyWords) {t : Thread} {rest : List Char}
    (ht : t.place.rest = word.toList ++ '=' :: rest) : Prefers (oneOf keyWords) t word.toList := by
  have hspells := spells_of_mem_keyWords hword
  refine prefers_choice (List.mem_map_of_mem hword)
    (prefers_spelled ht hspells.length ?_) fun r hr => ?_
  · rw [spells_append, hspells.length, List.take_length, hspells.spells, List.drop_length]
    rfl
  · obtain ⟨other, hother, rfl⟩ := List.mem_map.mp hr
    by_cases hne : other = word
    · exact Or.inl (by rw [hne])
    · refine Or.inr (outcomes_spelled_eq_nil ?_)
      rw [ht]
      exact spells_eq_false_of_ne hword hother hne rest

theorem prefers_separator {t : Thread} {rest : List Char} (ht : t.place.rest = '=' :: rest)
    (hrest : ∀ c ∈ rest.head?, blankSet.contains c = false) : Prefers separatorBody t ['='] := by
  have hopening : ∀ u, Takes t [] u → u.place.rest = '=' :: rest := fun u hu =>
    hu.rest.symm.trans ht
  -- the quotation mark and the blanks before the sign may be there, and are not
  have hsign : ∀ s : CharSet, s.contains '=' = false → ∀ u, Takes t [] u →
      ∀ c ∈ u.place.rest.head?, s.contains c = false := by
    intro s hs u hu c hc
    rw [hopening u hu] at hc
    cases hc
    exact hs
  have h : Prefers separatorBody t ([] ++ ([] ++ (['='] ++ []))) := by
    refine (prefers_optional_absent (hsign _ (by decide) t (.refl t))).seq fun u hu => ?_
    refine (prefers_zeroOrMore_nil (hsign _ (by decide) u hu)).seq fun v hv => ?_
    have hv' := hopening v (hu.append hv)
    refine (prefers_set hv' (by decide)).seq fun w hw => prefers_zeroOrMore_nil ?_
    have hw' : w.place.rest = rest := List.append_cancel_left (hw.rest.symm.trans hv')
    rw [hw']
    exact hrest
  exact h

theorem prefers_unquoted {t : Thread} {value rest : List Char} (hne : value ≠ [])
    (ht : t.place.rest = value ++ rest) (hvalue : ∀ c ∈ value, valueStops.negate.contains c = true)
    (hrest : ∀ c ∈ rest.head?, valueStops.negate.contains c = false) :
    Prefers valueBody t value := by
  -- a value that starts with no quotation mark is no quoted value
  have hmark : ∀ mark, valueStops.negate.contains mark = false →
      outcomes (quotedBody mark) t = [] := by
    intro mark hmark
    refine List.eq_nil_iff_forall_not_mem.mpr fun u hu => ?_
    obtain ⟨xs, ⟨inner, rfl, -⟩, htakes⟩ := takes_of_mem_quotedBody hu
    obtain ⟨c, cs, rfl⟩ := List.exists_cons_of_ne_nil hne
    obtain rfl : c = mark := by simpa using congrArg List.head? (ht.symm.trans htakes.rest)
    rw [hvalue c List.mem_cons_self] at hmark
    cases hmark
  refine prefers_choice (r := oneOrMore valueStops.negate) (by simp)
    (prefers_oneOrMore hne ht hvalue hrest) fun r hr => ?_
  simp only [List.mem_cons, List.not_mem_nil, or_false] at hr
  rcases hr with rfl | rfl | rfl
  · exact Or.inr (hmark '"' (by decide))
  · exact Or.inr (hmark '\'' (by decide))
  · exact Or.inl rfl

/-- The pattern of pairs matches a key with an unquoted value as a whole. -/
theorem matchAt?_assigned {word : String} (hword : word ∈ keyWords) {before : Option Char}
    {value rest : List Char} (hne : value ≠ [])
    (hvalue : ∀ c ∈ value, valueStops.negate.contains c = true)
    (hrest : ∀ c ∈ rest.head?, valueStops.negate.contains c = false)
    (hedge : wordEdge.holds ⟨0, before, (Pair.assigned hword value).text ++ rest⟩ = true) :
    matchAt? pair.body ⟨0, before, (Pair.assigned hword value).text ++ rest⟩ =
      some (Pair.assigned hword value).found := by
  have hk := placeOnly_some fun t : Thread => (⟨0, t.place.index, t.groups⟩ : Match)
  have htext : (Pair.assigned hword value).text ++ rest = word.toList ++ '=' :: (value ++ rest) := by
    simp [Pair.assigned, Pair.text, Pair.sep]
  have hblank : ∀ c ∈ (value ++ rest).head?, blankSet.contains c = false := by
    obtain ⟨c, cs, rfl⟩ := List.exists_cons_of_ne_nil hne
    rintro c ⟨⟩
    exact (contains_stops_negate.mp (hvalue c List.mem_cons_self)).2
  rw [matchAt?_eq_first, pair_eq]
  dsimp only
  rw [first_seq hk, first_empty, first_seq hk, first_look, if_pos hedge, first_seq hk, htext]
  refine (prefers_key hword rfl).first_group (hk.first _) fun u hu => ?_
  have hu' := List.append_cancel_left hu.rest.symm
  rw [first_seq hk]
  refine (prefers_separator hu' hblank).first_group (hk.first _) fun v hv => ?_
  have hv' : v.place.rest = value ++ rest := List.append_cancel_left (hv.rest.symm.trans hu')
  refine (prefers_unquoted hne hv' hvalue hrest).first_group hk fun w hw => ?_
  simp [Pair.assigned, Pair.found, Pair.text, Pair.sep, hu.index, hv.index, hw.index, hu.groups,
    hv.groups, hw.groups, Nat.add_assoc]
  omega

end ClusterMonitor.Credentials

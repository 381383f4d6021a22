import ClusterMonitor.Proofs.Redaction.Digests

/-!
# Redacting with digests

A redactor that leaves digests changes a text with a credential, unless the credential is masked already.
Digests of digests may come back to where they started, so nothing gets less from pass to pass; but the
first place that a pass changes is not changed back by the passes behind it.

* `prefix_maskPairs`, `prefix_maskAuthorizations` — the later passes keep a digest, or change what stands
  before it.
* `chained` and `not_undone` — the digest of a header is one more than what was there.
* `redact_correlating_eq_self_iff` — the texts that redaction with digests leaves as they are.
-/

namespace ClusterMonitor

open Regex Credentials Unicode

/-- A redactor that leaves digests, by which equal secrets can be recognized. -/
abbrev Redactor.correlating : Redactor := { digests := true }

/-! ## Values -/

namespace Credentials

/-- A value has a first character, which is no blank. -/
theorem IsValue.exists_cons {value rest : List Char} (h : IsValue value rest) :
    ∃ c cs, value = c :: cs ∧ isBlank c = false := by
  rcases h with ⟨inner, rfl, -⟩ | ⟨inner, rfl, -⟩ | ⟨hne, hvalue, -⟩
  · exact ⟨_, _, rfl, rfl⟩
  · exact ⟨_, _, rfl, rfl⟩
  · obtain ⟨c, cs, rfl⟩ := List.exists_cons_of_ne_nil hne
    exact ⟨c, cs, rfl, (contains_stops_negate.mp (hvalue c List.mem_cons_self)).2⟩

/-- A value goes on at least as far as the opening of a digest. -/
theorem IsValue.isMasked {value rest : List Char} (h : IsValue value rest)
    (hopening : digestOpening.toList <+: value ++ rest) : Redactor.IsMasked value := by
  have hquoted : ∀ mark, mark ≠ 'H' → ¬IsQuoted mark value := by
    rintro mark hmark ⟨inner, rfl, -⟩
    have hcons : 'H' :: (['A', 'S', 'H'] ++ ['[']) <+: mark :: (inner ++ [mark] ++ rest) := hopening
    exact hmark (List.cons_prefix_cons.mp hcons).1.symm
  rcases h with h | h | ⟨-, -, hstop⟩
  · exact absurd h (hquoted '"' (by decide))
  · exact absurd h (hquoted '\'' (by decide))
  · refine Or.inr ?_
    rcases prefix_append_iff.mp hopening with h | ⟨ws, hws, hrest⟩
    · exact h
    · cases ws with
      | nil => exact ⟨[], by simpa using hws⟩
      | cons w ws =>
        obtain ⟨ts, rfl⟩ := hrest
        have hall : digestOpening.toList.all valueStops.negate.contains = true := by decide
        have hw := List.all_eq_true.mp hall w (hws ▸ by simp)
        rw [hstop w rfl] at hw
        cases hw

end Credentials

/-! ## The first change of a pass -/

namespace Redactor

/-- Where the pass over URLs changes a text first, a password gives way to its mask, between a colon
and an at sign. -/
theorem exists_of_changes_logins {cs out : List Char} (r : Redactor)
    (h : Changes inUrl.body r.loginReplacement r.PasswordMasked cs out) :
    ∃ start pass rest rest', '@' ∉ pass ∧ (r.mask (String.ofList pass)).toList ≠ pass ∧
      cs = (start ++ [':']) ++ (pass ++ '@' :: rest) ∧
        out = (start ++ [':']) ++ ((r.mask (String.ofList pass)).toList ++ '@' :: rest') := by
  obtain ⟨pre, xs, rest, m, before, after, hm, hstop, hunsettled⟩ := h
  obtain ⟨l, rfl, rfl⟩ := exists_login_of_stop hm hstop
  rw [passwordMasked_found_iff] at hunsettled
  refine ⟨pre ++ (l.scheme ++ l.user), l.pass, rest, scan inUrl.body r.loginReplacement after 0 rest,
    notMem_of_contains l.pass_mem (by decide), hunsettled, by simp [Login.text], ?_⟩
  rw [loginReplacement_found]
  simp

/-- Where the pass over keys and values changes a text first, an unmasked value gives way to a
digest. -/
theorem exists_of_changes_pairs {cs out : List Char}
    (h : Changes pair.body correlating.pairReplacement ValueMasked cs out) :
    ∃ front value rest rest', OpensValue front ∧ IsValue value rest ∧ ¬IsMasked value ∧
      cs = front ++ (value ++ rest) ∧ out = front ++ (digestOpening.toList ++ rest') := by
  obtain ⟨pre, xs, rest, m, before, after, hm, hstop, hunsettled⟩ := h
  obtain ⟨p, hvalue, rfl, rfl⟩ := exists_pair_of_stop hm hstop
  rw [valueMasked_found_iff] at hunsettled
  refine ⟨pre ++ (p.key ++ p.sep), p.value, rest,
    (shortDigest (String.ofList p.value)).toList ++
      ']' :: scan pair.body correlating.pairReplacement after 0 rest,
    ⟨p, pre, rfl⟩, hvalue, hunsettled, by simp [Pair.text], ?_⟩
  rw [pairReplacement_found, if_neg hunsettled, toList_mask, ← digestWord_append_bracketed]
  simp only [List.append_assoc]

/-- Where the pass over headers changes a text first, what a header carries gives way to the digest
of the whole. -/
theorem exists_of_changes_authorizations {cs out : List Char}
    (h : Changes header.body correlating.authorizationReplacement (fun _ _ => False) cs out) :
    ∃ (pre : List Char) (a : Authorization) (rest : List Char) (after : Option Char),
      (∀ c ∈ rest.head?, tokenSet.contains c = false) ∧
      cs = (pre ++ a.opening) ++ (a.blanks ++ (a.token ++ rest)) ∧
        out = (pre ++ a.opening) ++ ' ' :: (digestWord ++ (bracketed (String.ofList a.text) ++
          scan header.body correlating.authorizationReplacement after 0 rest)) := by
  obtain ⟨pre, xs, rest, m, before, after, hm, hstop, -⟩ := h
  obtain ⟨a, hend, rfl, rfl⟩ := exists_authorization_of_stop hm hstop
  refine ⟨pre, a, rest, after, hend, by simp [Authorization.text], ?_⟩
  rw [authorizationReplacement_found, toList_mask]
  simp

/-! ## What the pass over pairs keeps -/

/-- Where the pass over pairs keeps how a text starts, it keeps unbroken text behind it. -/
theorem prefix_maskPairs {start cs after : List Char} {l : Char} (hl : l ∉ digestOpening.toList)
    (hcs : Unbroken l cs)
    (hhead : (∃ d ds, cs = d :: ds ∧ isBlank d = true) ∨ digestOpening.toList <+: cs)
    (h : start ++ [l] <+: correlating.maskPairs ((start ++ [l]) ++ (cs ++ after))) :
    (start ++ [l]) ++ cs <+: correlating.maskPairs ((start ++ [l]) ++ (cs ++ after)) := by
  rcases correlating.maskPairs_cases ((start ++ [l]) ++ (cs ++ after)) with ⟨hsame, -⟩ | ⟨hchanges, -⟩
  · rw [hsame, ← List.append_assoc]
    exact List.prefix_append _ after
  · obtain ⟨front, value, rest, rest', hfront, hvalue, hmasked, hsplit, hout⟩ :=
      exists_of_changes_pairs hchanges
    -- the text behind is no value that would be masked
    have hstart : ∀ after', value ++ rest ≠ cs ++ after' := by
      intro after' heq
      rcases hhead with ⟨d, ds, rfl, hd⟩ | hopening
      · obtain ⟨c, cs', rfl, hc⟩ := hvalue.exists_cons
        rw [(List.cons.inj heq).1, hd] at hc
        cases hc
      · exact hmasked (hvalue.isMasked (heq ▸ hopening.trans (List.prefix_append cs after')))
    rw [hout] at h ⊢
    rcases List.append_eq_append_iff.mp hsplit with ⟨zs, rfl, hzs⟩ | ⟨zs, hzs, hrest⟩
    · rcases List.append_eq_append_iff.mp hzs with ⟨ws, rfl, -⟩ | ⟨ws, rfl, hws⟩
      · simp only [← List.append_assoc]
        exact ⟨ws ++ digestOpening.toList ++ rest', by simp⟩
      · by_cases hne : zs = []
        · subst hne
          exact absurd hws (hstart after)
        · refine absurd hfront ?_
          rw [List.append_assoc, List.singleton_append]
          exact hcs start zs hne (List.prefix_append zs ws)
    · by_cases hne : zs = []
      · subst hne
        exact absurd hrest (hstart after)
      · have hl' : l ∈ zs := by
          obtain ⟨ys, y, rfl⟩ := (List.eq_nil_or_concat' zs).resolve_left hne
          rw [← List.append_assoc] at hzs
          obtain ⟨-, rfl⟩ := List.append_singleton_inj.mp hzs
          simp
        rw [hzs, List.prefix_append_right_inj] at h
        rcases prefix_append_iff.mp h with h | ⟨ws, rfl, -⟩
        · exact absurd (h.mem hl') hl
        · refine absurd (hvalue.isMasked ?_) hmasked
          rw [hrest, List.append_assoc]
          exact List.prefix_append _ _

/-! ## Chains of digests -/

/-- A blank, and the word before a digest with the digest some times behind it. -/
def chained (tag : List Char) (n : Nat) : List Char := ' ' :: (digestWord ++ (List.replicate n tag).flatten)

theorem chained_succ (tag : List Char) (n : Nat) : chained tag (n + 1) = chained tag n ++ tag := by
  simp [chained, List.replicate_succ']

/-- A chain is at least as long as the number of its digests. -/
theorem le_length_chained {tag : List Char} (htag : tag ≠ []) (n : Nat) : n ≤ (chained tag n).length := by
  have hlength := List.length_pos_iff.mpr htag
  induction n with
  | zero => exact Nat.zero_le _
  | succ n ih =>
    rw [chained_succ, List.length_append]
    omega

section Chained

variable (secret : String)

/-- Behind its first character a chain is smooth. -/
theorem smooth_chained_tail (n : Nat) :
    Smooth (digestWord ++ (List.replicate n (bracketed secret)).flatten) := by
  refine (smooth_of_all (by decide)).append ?_
  induction n with
  | zero => exact smooth_of_all rfl
  | succ n ih =>
    rw [List.replicate_succ, List.flatten_cons]
    exact (smooth_bracketed secret).append ih

/-- A chain has no colon. -/
theorem colon_notMem_chained (n : Nat) : ':' ∉ chained (bracketed secret) n := by
  rw [chained, List.mem_cons, List.mem_append, List.mem_flatten]
  rintro (h | h | ⟨tag, htag, h⟩)
  · exact absurd h (by decide)
  · exact absurd h (by decide)
  · rw [(List.mem_replicate.mp htag).2] at h
    exact (mem_bracketed h).1 (by simp)

/-- The pass over headers finds nothing in a digest. -/
theorem scan_header_bracketed (replacement : List Char → Match → List Char) (before : Option Char)
    (rest : List Char) :
    scan header.body replacement before 0 (bracketed secret ++ rest) =
      bracketed secret ++ scan header.body replacement (some ']') 0 rest := by
  have hbracketed : bracketed secret = ('[' :: (shortDigest secret).toList) ++ [']'] := by
    rw [bracketed, List.cons_append]
  have hcolon : ':' ∉ '[' :: (shortDigest secret).toList := by
    intro h
    have hmem : ':' ∈ bracketed secret := hbracketed ▸ List.mem_append_left [']'] h
    exact (mem_bracketed hmem).1 List.mem_cons_self
  have hquiet : Quiet header.body before (('[' :: (shortDigest secret).toList) ++ [']']) rest :=
    quiet_of_signBefore (signBefore_header (by decide) (by decide)) (by decide)
      (List.forall_mem_singleton.mpr hcolon) rest
  have hlast : lastOf before (('[' :: (shortDigest secret).toList) ++ [']']) = some ']' := by
    rw [lastOf, List.foldl_append]
    rfl
  have hscan := scan_append replacement hquiet
  rwa [hlast, ← hbracketed] at hscan

/-- The pass over headers finds nothing in a chain, and goes on behind it. -/
theorem exists_scan_header_replicate (replacement : List Char → Match → List Char) (n : Nat)
    (before : Option Char) (rest : List Char) :
    ∃ out, scan header.body replacement before 0
      ((List.replicate n (bracketed secret)).flatten ++ rest) =
        (List.replicate n (bracketed secret)).flatten ++ out := by
  induction n generalizing before with
  | zero => exact ⟨_, rfl⟩
  | succ n ih =>
    obtain ⟨out, hout⟩ := ih (some ']')
    refine ⟨out, ?_⟩
    rw [List.replicate_succ, List.flatten_cons, List.append_assoc, scan_header_bracketed, hout,
      List.append_assoc]

end Chained

/-- If a header has digests in the place of its token, it gets one more. -/
theorem chained_succ_prefix {a : Authorization} {rest : List Char}
    (hend : ∀ c ∈ rest.head?, tokenSet.contains c = false) (secret : String)
    (replacement : List Char → Match → List Char) (after : Option Char) {n : Nat}
    (h : chained (bracketed secret) (n + 1) <+: a.blanks ++ (a.token ++ rest)) :
    chained (bracketed secret) (n + 2) <+:
      ' ' :: (digestWord ++ (bracketed secret ++ scan header.body replacement after 0 rest)) := by
  obtain ⟨tags, htags⟩ : ∃ tags, tags = (List.replicate (n + 1) (bracketed secret)).flatten := ⟨_, rfl⟩
  obtain ⟨ts, hts⟩ := h
  -- the header has one blank
  obtain ⟨b, bs, hb⟩ := List.exists_cons_of_ne_nil a.blanks_ne
  rw [chained, ← htags, hb, List.cons_append, List.cons_append, List.cons.injEq] at hts
  have hbs : bs = [] := by
    cases bs with
    | nil => rfl
    | cons b' bs =>
      have hblank : isBlank b' = true := a.blanks_mem b' (by simp [hb])
      have hb' : 'H' = b' := (List.cons.inj hts.2).1
      rw [← hb'] at hblank
      exact absurd hblank (by decide)
  rw [hbs, List.nil_append, List.append_assoc] at hts
  -- its token is the word, since both go on as far as characters of tokens do
  have hhead : ∀ c ∈ (tags ++ ts).head?, tokenSet.contains c = false := by
    rw [htags, List.replicate_succ, List.flatten_cons, bracketed]
    rintro c ⟨⟩
    decide
  have hword : ∀ c ∈ digestWord, tokenSet.contains c = true := List.all_eq_true.mp (by decide)
  have hrest : tags ++ ts = rest := (append_inj_of_run hword a.token_mem hhead hend hts.2).2
  obtain ⟨out, hout⟩ := exists_scan_header_replicate secret replacement (n + 1) after ts
  rw [chained, List.replicate_succ, List.flatten_cons, List.cons_prefix_cons,
    List.prefix_append_right_inj, List.prefix_append_right_inj, ← htags, ← hrest]
  rw [← htags] at hout
  exact ⟨rfl, hout ▸ List.prefix_append tags out⟩

/-! ## What later passes do not undo -/

/-- Does the character look neither like a part of a separator nor like one of the opening of a digest? -/
def isFormEnd (l : Char) : Bool := !digestOpening.toList.contains l && isPlain l

/-- The opening of a header ends with a letter that digests do not start with. -/
theorem exists_opening_concat (a : Authorization) : ∃ cs l, a.opening = cs ++ [l] ∧
    l ∉ digestOpening.toList ∧ isPlain l = true := by
  obtain ⟨word, hword, hform⟩ := a.form_spells
  have hne : ∀ word ∈ formWords, caselessSets word ≠ [] := by decide
  obtain ⟨c, cs, hc⟩ := hform.exists_cons (hne word hword)
  obtain ⟨fs, l, hfs⟩ := (List.eq_nil_or_concat' a.form).resolve_left (by simp [hc])
  rw [hfs] at hform
  have hends := hform.endsWord
  have hletters : ∀ word ∈ formWords, ∃ letters, letters.all isFormEnd = true ∧
      (caselessSets word).getLast? = some (CharSet.ofChars letters) := by
    intro word hword
    simp only [formWords, List.mem_cons, List.not_mem_nil, or_false] at hword
    rcases hword with rfl | rfl | rfl
    · exact ⟨['C', 'c'], by decide, by decide +kernel⟩
    · exact ⟨['R', 'r'], by decide, by decide +kernel⟩
    · exact ⟨['T', 't'], by decide, by decide +kernel⟩
  obtain ⟨letters, hall, hlast⟩ := hletters word hword
  rw [endsWord, hlast, Option.any_some, CharSet.contains_ofChars] at hends
  have hl := List.all_eq_true.mp hall l hends
  simp only [isFormEnd, Bool.and_eq_true, Bool.not_eq_true', List.contains_eq_mem,
    decide_eq_false_iff_not] at hl
  exact ⟨a.name ++ (a.gap ++ ':' :: (a.gap' ++ fs)), l, by simp [Authorization.opening, hfs], hl⟩

/-- Where the pass over headers has put a digest, the pass over pairs does not bring back the text that
was there. -/
theorem not_undone {pre : List Char} {a : Authorization} {rest after : List Char} {before : Option Char}
    (hend : ∀ c ∈ rest.head?, tokenSet.contains c = false) {secret : String}
    {replacement : List Char → Match → List Char}
    (hpairs : correlating.maskPairs ((pre ++ a.opening) ++ ' ' :: (digestWord ++ (bracketed secret ++
      scan header.body replacement before 0 rest))) = (pre ++ a.opening) ++ after)
    (hback : ∀ n, chained (bracketed secret) n <+: after →
      chained (bracketed secret) n <+: a.blanks ++ (a.token ++ rest)) : False := by
  obtain ⟨cs, l, hopening, hl, hplain⟩ := exists_opening_concat a
  rw [hopening, ← List.append_assoc] at hpairs
  generalize hput : ' ' :: (digestWord ++ (bracketed secret ++
    scan header.body replacement before 0 rest)) = put at hpairs
  have hkept : ∀ n, chained (bracketed secret) n <+: put → chained (bracketed secret) n <+: after := by
    rintro n ⟨ts, rfl⟩
    have hstart := List.prefix_append (pre ++ cs ++ [l]) after
    rw [← hpairs] at hstart
    have hkept := prefix_maskPairs hl
      (unbroken_cons hplain (by decide) (smooth_chained_tail secret n)) (Or.inl ⟨' ', _, rfl, rfl⟩) hstart
    rw [← chained, hpairs, List.prefix_append_right_inj] at hkept
    exact hkept
  -- so there are ever more digests
  have hall : ∀ n, chained (bracketed secret) (n + 1) <+: put := by
    intro n
    induction n with
    | zero =>
      rw [← hput]
      exact ⟨scan header.body replacement before 0 rest, by simp [chained]⟩
    | succ n ih =>
      rw [← hput]
      exact chained_succ_prefix hend secret replacement before (hback (n + 1) (hkept (n + 1) ih))
  have hlength := (hall put.length).length_le
  have hle := le_length_chained (bracketed_ne_nil secret) (put.length + 1)
  omega

/-- Where the passes behind that over logins keep how a text starts, up to a colon, the pass over
headers keeps text without blanks behind it. -/
theorem prefix_maskAuthorizations {start cs after : List Char} (hne : cs ≠ [])
    (hcs : ∀ c ∈ cs, isBlank c = false)
    (h : start ++ [':'] <+:
      correlating.maskPairs (correlating.maskAuthorizations ((start ++ [':']) ++ (cs ++ after)))) :
    (start ++ [':']) ++ cs <+: correlating.maskAuthorizations ((start ++ [':']) ++ (cs ++ after)) := by
  rcases correlating.maskAuthorizations_cases ((start ++ [':']) ++ (cs ++ after)) with
    ⟨hsame, -⟩ | ⟨hchanges, -⟩
  · rw [hsame, ← List.append_assoc]
    exact List.prefix_append _ after
  · obtain ⟨pre, a, rest, before, hend, hsplit, hout⟩ := exists_of_changes_authorizations hchanges
    obtain ⟨b, bs, hb⟩ := List.exists_cons_of_ne_nil a.blanks_ne
    have hblank : isBlank b = true := a.blanks_mem b (by simp [hb])
    -- the blanks of the header are not in the text
    have hstart : ∀ ws after', ws ≠ [] → (∀ c ∈ ws, isBlank c = false) →
        a.blanks ++ (a.token ++ rest) ≠ ws ++ after' := by
      intro ws after' hwsNe hws heq
      obtain ⟨w, ws, rfl⟩ := List.exists_cons_of_ne_nil hwsNe
      rw [hb] at heq
      have hw := hws w List.mem_cons_self
      rw [← (List.cons.inj heq).1, hblank] at hw
      cases hw
    rcases List.append_eq_append_iff.mp hsplit with ⟨zs, hzs, hrest⟩ | ⟨zs, hzs, hrest⟩
    · rcases List.append_eq_append_iff.mp hrest with ⟨ws, rfl, -⟩ | ⟨ws, rfl, hws⟩
      · rw [hout, hzs, ← List.append_assoc, List.append_assoc _ ws]
        exact List.prefix_append _ _
      · by_cases hwsNe : ws = []
        · subst hwsNe
          rw [hout, hzs, List.append_nil]
          exact List.prefix_append _ _
        · exact absurd hws (hstart ws after hwsNe fun c hc => hcs c (List.mem_append_right zs hc))
    · by_cases hzsNe : zs = []
      · subst hzsNe
        exact absurd hrest (hstart cs after hne hcs)
      · have hcolon : ':' ∈ zs := by
          obtain ⟨ys, y, rfl⟩ := (List.eq_nil_or_concat' zs).resolve_left hzsNe
          rw [← List.append_assoc] at hzs
          obtain ⟨-, rfl⟩ := List.append_singleton_inj.mp hzs
          simp
        rw [hout] at h
        obtain ⟨ts, hts⟩ := h
        rw [hzs, List.append_assoc] at hts
        refine (not_undone hend hts.symm fun n hn => ?_).elim
        rw [hrest]
        rcases prefix_append_iff.mp hn with hn | ⟨ws, hws, -⟩
        · exact hn.trans (List.prefix_append zs _)
        · refine absurd ?_ (colon_notMem_chained (String.ofList a.text) n)
          rw [hws]
          exact List.mem_append_left ws hcolon

/-! ## Texts that redaction leaves as they are -/

section Fixed

variable {cs : List Char} (h : correlating.passes cs = cs)
include h

/-- What all passes together leave alone is left alone by the pass over URLs, so that its passwords
are masked. -/
theorem logins_of_passes_eq : correlating.maskLogins cs = cs ∧
    ∀ m ∈ inUrl.body.matches cs, correlating.PasswordMasked cs m := by
  refine (correlating.maskLogins_cases cs).resolve_right ?_
  rintro ⟨hchanges, -⟩
  obtain ⟨start, pass, rest, rest', hpass, hne, hcs, hout⟩ := correlating.exists_of_changes_logins hchanges
  obtain ⟨put, hput⟩ : ∃ put, put = (correlating.mask (String.ofList pass)).toList ++ ['@'] := ⟨_, rfl⟩
  have hplain : ∀ c ∈ put, isBlank c = false := by
    rw [hput, List.forall_mem_append, List.forall_mem_singleton]
    exact ⟨fun c hc => (mem_mask hc).2, by decide⟩
  have hsmooth : Smooth put := hput ▸ (smooth_mask _).append (smooth_of_all (by decide))
  have hopening : digestOpening.toList <+: put :=
    hput ▸ (opening_prefix_mask _).trans (List.prefix_append _ ['@'])
  have hsplit : correlating.maskLogins cs = (start ++ [':']) ++ (put ++ rest') := by
    rw [hout, hput]
    simp
  have hfinal : correlating.maskPairs
      (correlating.maskAuthorizations ((start ++ [':']) ++ (put ++ rest'))) = cs := by
    rw [← hsplit]
    exact h
  have hstart : start ++ [':'] <+: cs := hcs ▸ List.prefix_append _ _
  obtain ⟨ts, hts⟩ := prefix_maskAuthorizations (by simp [hput]) hplain (hfinal ▸ hstart)
  rw [← hts, List.append_assoc _ put] at hfinal
  have hkept := prefix_maskPairs (by decide) (hsmooth ':') (Or.inr hopening) (hfinal ▸ hstart)
  rw [hfinal, hcs, List.prefix_append_right_inj, hput] at hkept
  obtain ⟨us, hus⟩ := hkept
  rw [List.append_assoc] at hus
  exact hne (append_cons_inj_of_notMem (fun hmem => (mem_mask hmem).1 (by simp)) hpass hus).1

theorem authorizations_of_passes_eq :
    correlating.maskAuthorizations cs = cs ∧ header.body.matches cs = [] := by
  refine (correlating.maskAuthorizations_cases cs).resolve_right ?_
  rintro ⟨hchanges, -⟩
  obtain ⟨pre, a, rest, after, hend, hcs, hout⟩ := exists_of_changes_authorizations hchanges
  have hfinal : correlating.maskPairs (correlating.maskAuthorizations cs) = cs := by
    have hpasses := h
    rwa [passes, (logins_of_passes_eq h).1] at hpasses
  rw [hout] at hfinal
  exact not_undone hend (hfinal.trans hcs) fun n hn => hn

theorem pairs_of_passes_eq :
    correlating.maskPairs cs = cs ∧ ∀ m ∈ pair.body.matches cs, ValueMasked cs m := by
  refine (correlating.maskPairs_cases cs).resolve_right ?_
  rintro ⟨hchanges, -⟩
  obtain ⟨front, value, rest, rest', -, hvalue, hmasked, hcs, hout⟩ := exists_of_changes_pairs hchanges
  have hfinal : correlating.maskPairs cs = cs := by
    have hpasses := h
    rwa [passes, (logins_of_passes_eq h).1, (authorizations_of_passes_eq h).1] at hpasses
  rw [hout, hcs, List.append_cancel_left_eq] at hfinal
  exact hmasked (hvalue.isMasked (hfinal ▸ List.prefix_append _ rest'))

end Fixed

/-- Redaction with digests leaves a text alone just if there is nothing to mask in it. -/
theorem redact_correlating_eq_self_iff (text : String) :
    correlating.redact text = text ↔ correlating.Scrubbed text := by
  refine ⟨fun h => ?_, redact_of_scrubbed⟩
  have hpasses : correlating.passes text.toList = text.toList := by
    rw [redact_eq_passes, ← String.toList_inj, String.toList_ofList] at h
    exact h
  exact ⟨(logins_of_passes_eq hpasses).2, (authorizations_of_passes_eq hpasses).2,
    (pairs_of_passes_eq hpasses).2⟩

end Redactor

end ClusterMonitor

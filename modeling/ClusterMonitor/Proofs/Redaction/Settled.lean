import ClusterMonitor.Proofs.Redaction.Correlation

/-!
# Redacting redacted text

Redaction need not leave redacted text as it is: a mask is read together with what stands behind it, and
a mask can bring a login to light. But every round with the mask that changes a text takes weight from
it, so that repeated redaction comes to an end.

* `weight` — twice the characters that are no stars, and the runs of stars that are not masks.
* `Lowers` and `ne_of_changes` — a pass that takes weight wherever it changes something does not undo a
  change.
* `Redactor.redact_eq_self_iff` — redaction leaves scrubbed texts as they are, and no others.
* `exists_scrubbed_iterate` — what any text becomes after some rounds.
-/

namespace ClusterMonitor

open Regex Credentials

/-! ## The weight of a text -/

/-- Is a run of so many stars there, but not a mask? -/
def strayStars (k : Nat) : Nat := if k = 0 ∨ k = secretMask.length then 0 else 1

/-- What the characters of a text weigh behind so many stars, up to the stars at its end. -/
def load : Nat → List Char → Nat
  | _, [] => 0
  | k, c :: cs => if c = '*' then load (k + 1) cs else 2 + strayStars k + load 0 cs

/-- The stars at the end of a text behind so many stars. -/
def starsAfter : Nat → List Char → Nat
  | k, [] => k
  | k, c :: cs => if c = '*' then starsAfter (k + 1) cs else starsAfter 0 cs

/-- What a text weighs behind so many stars. -/
def weight (k : Nat) (cs : List Char) : Nat := load k cs + strayStars (starsAfter k cs)

/-- The load of two texts, the second one begun with the stars that the first one ends with. -/
theorem load_append (k : Nat) (xs ys : List Char) :
    load k (xs ++ ys) = load k xs + load (starsAfter k xs) ys := by
  induction xs generalizing k with
  | nil => simp [load, starsAfter]
  | cons x xs ih =>
    rw [List.cons_append, load, load, starsAfter]
    split
    · exact ih (k + 1)
    · rw [ih 0, ← Nat.add_assoc]

/-- The stars at the end of two texts, counted through both. -/
theorem starsAfter_append (k : Nat) (xs ys : List Char) :
    starsAfter k (xs ++ ys) = starsAfter (starsAfter k xs) ys := by
  induction xs generalizing k with
  | nil => rfl
  | cons x xs ih =>
    rw [List.cons_append, starsAfter, starsAfter]
    split
    · exact ih (k + 1)
    · exact ih 0

/-- The weight of two texts is the load of the first and the weight of the second behind it. -/
theorem weight_append (k : Nat) (xs ys : List Char) :
    weight k (xs ++ ys) = load k xs + weight (starsAfter k xs) ys := by
  rw [weight, weight, load_append, starsAfter_append, Nat.add_assoc]

theorem weight_nil (k : Nat) : weight k [] = strayStars k := by
  simp [weight, load, starsAfter]

/-- Stars are no burden if there are none, or as many as a mask has. -/
theorem strayStars_eq_zero_iff (k : Nat) : strayStars k = 0 ↔ k = 0 ∨ k = secretMask.length := by
  unfold strayStars
  split <;> simp [*]

/-- At the worst they add one. -/
theorem strayStars_le (k : Nat) : strayStars k ≤ 1 := by
  unfold strayStars
  split <;> omega

/-- Stars before a text make little difference. -/
theorem weight_le_add_one (j k : Nat) (cs : List Char) : weight j cs ≤ weight k cs + 1 := by
  induction cs generalizing j k with
  | nil =>
    have hj := strayStars_le j
    simp only [weight, load, starsAfter]
    omega
  | cons c cs ih =>
    have hj := strayStars_le j
    simp only [weight, load, starsAfter] at ih ⊢
    split
    · exact ih (j + 1) (k + 1)
    · omega

/-- Behind any other character there are no stars. -/
theorem starsAfter_concat (k : Nat) (xs : List Char) {c : Char} (hc : c ≠ '*') :
    starsAfter k (xs ++ [c]) = 0 := by
  rw [starsAfter_append, starsAfter, if_neg hc]
  rfl

/-- A character other than a star weighs two, and closes the run of stars before it. -/
theorem weight_cons_of_ne (k : Nat) {c : Char} (hc : c ≠ '*') (cs : List Char) :
    weight k (c :: cs) = 2 + strayStars k + weight 0 cs := by
  simp only [weight, load, starsAfter, if_neg hc]
  omega

/-- Each character of a text without stars weighs two at least. -/
theorem two_mul_length_le_load (k : Nat) {xs : List Char} (h : '*' ∉ xs) :
    2 * xs.length ≤ load k xs := by
  induction xs generalizing k with
  | nil => simp
  | cons x xs ih =>
    rw [List.mem_cons, not_or] at h
    have hrest := ih 0 h.2
    rw [load, if_neg (Ne.symm h.1), List.length_cons]
    omega

/-- Behind a text without stars there are none. -/
theorem starsAfter_of_notMem (k : Nat) {xs : List Char} (hne : xs ≠ []) (h : '*' ∉ xs) :
    starsAfter k xs = 0 := by
  obtain ⟨ys, c, rfl⟩ := List.eq_nil_or_concat' xs |>.resolve_left hne
  refine starsAfter_concat k ys fun hc => h ?_
  simp [hc]

/-- Nothing but the mask has no weight. -/
theorem weight_pos {xs : List Char} (hne : xs ≠ []) (hmask : xs ≠ secretMask.toList) :
    0 < weight 0 xs := by
  -- the claim is made for any number of stars before, since a star adds one to it
  have hstars : ∀ xs k, weight k xs = 0 →
      xs = List.replicate xs.length '*' ∧ (k + xs.length = 0 ∨ k + xs.length = secretMask.length) := by
    intro xs
    induction xs with
    | nil =>
      intro k h
      rw [weight_nil, strayStars_eq_zero_iff] at h
      exact ⟨rfl, h⟩
    | cons x xs ih =>
      intro k h
      by_cases hx : x = '*'
      · subst hx
        simp only [weight, load, starsAfter, if_true] at h
        obtain ⟨hxs, hlength⟩ := ih (k + 1) h
        refine ⟨?_, ?_⟩
        · rw [List.length_cons, List.replicate_succ, ← hxs]
        · rw [List.length_cons]
          omega
      · rw [weight_cons_of_ne k hx] at h
        omega
  rw [Nat.pos_iff_ne_zero]
  intro h
  obtain ⟨hxs, hlength⟩ := hstars xs 0 h
  rw [Nat.zero_add] at hlength
  rcases hlength with hlength | hlength
  · exact hne (List.length_eq_zero_iff.mp hlength)
  · rw [hlength] at hxs
    exact hmask hxs

/-- A mask weighs nothing, but what follows it is behind its stars. -/
theorem weight_mask_append (cs : List Char) : weight 0 (secretMask.toList ++ cs) = weight 8 cs := by
  have hload : load 0 secretMask.toList = 0 := by decide
  have hstars : starsAfter 0 secretMask.toList = 8 := by decide
  rw [weight_append, hload, hstars, Nat.zero_add]

/-- Where no star follows, a mask weighs less than anything else. -/
theorem weight_mask_append_lt {v rest out : List Char} (hne : v ≠ []) (hmask : v ≠ secretMask.toList)
    (hrest : ∀ c ∈ rest.head?, c ≠ '*') (hout : ∀ k, weight k out ≤ weight k rest) :
    weight 0 (secretMask.toList ++ out) < weight 0 (v ++ rest) := by
  have hbehind : ∀ k, weight k rest = strayStars k + weight 0 rest := by
    intro k
    cases rest with
    | nil => rw [weight_nil, weight_nil]; rfl
    | cons c cs =>
      have hc : c ≠ '*' := hrest c rfl
      rw [weight_cons_of_ne k hc, weight_cons_of_ne 0 hc]
      have hzero : strayStars 0 = 0 := rfl
      omega
  have hout' := hout 8
  have hpos := weight_pos hne hmask
  have hstray : strayStars 8 = 0 := by decide
  rw [hbehind, hstray, Nat.zero_add] at hout'
  rw [weight_mask_append, weight_append, hbehind]
  rw [weight] at hpos
  omega

/-- A mask weighs less than two characters that are no stars. -/
theorem weight_mask_append_lt_of_load {v rest out : List Char} (hload : 2 ≤ load 0 v)
    (hstars : starsAfter 0 v = 0) (hout : ∀ k, weight k out ≤ weight k rest) :
    weight 0 (secretMask.toList ++ out) < weight 0 (v ++ rest) := by
  have hout' := hout 8
  have hle := weight_le_add_one 8 0 rest
  rw [weight_mask_append, weight_append, hstars]
  omega

/-! ## Passes that take weight -/

/-- Wherever the pass changes something it takes weight, whatever becomes of the rest. -/
def Lowers (r : Regex) (replacement : List Char → Match → List Char) : Prop :=
  ∀ before xs rest m, matchAt? r ⟨0, before, xs ++ rest⟩ = some m → m.stop = xs.length →
    replacement (xs ++ rest) m = xs ∨
      ∀ out, (∀ k, weight k out ≤ weight k rest) →
        ∀ k, weight k (replacement (xs ++ rest) m ++ out) < weight k (xs ++ rest)

section Pass

variable {r : Regex} {replacement : List Char → Match → List Char} (hr : NeverEmpty r)
  (hlowers : Lowers r replacement)
include hr hlowers

/-- A pass that lowers the weight of what it finds does not raise the weight of the text. -/
theorem weight_scan_le (before : Option Char) (cs : List Char) :
    ∀ k, weight k (scan r replacement before 0 cs) ≤ weight k cs := by
  induction before, cs using scan_induction replacement hr with
  | nil before => exact fun k => le_rfl
  | copied before c rest hnone ih =>
    intro k
    rw [← List.singleton_append, weight_append, ← List.singleton_append (l := rest), weight_append]
    exact Nat.add_le_add_left (ih _) _
  | replaced before m xs rest hm hstop hne ih =>
    intro k
    rcases hlowers before xs rest m hm hstop with hsame | hless
    · rw [hsame, weight_append, weight_append]
      exact Nat.add_le_add_left (ih _) _
    · exact (hless _ ih k).le

/-- A pass that takes no weight changes nothing. -/
theorem scan_eq_self_of_weight (before : Option Char) (cs : List Char) :
    ∀ k, weight k (scan r replacement before 0 cs) = weight k cs →
      scan r replacement before 0 cs = cs := by
  induction before, cs using scan_induction replacement hr with
  | nil before => exact fun k _ => rfl
  | copied before c rest hnone ih =>
    intro k h
    rw [← List.singleton_append, weight_append, ← List.singleton_append (l := rest), weight_append] at h
    rw [ih _ (Nat.add_left_cancel h)]
  | replaced before m xs rest hm hstop hne ih =>
    intro k h
    rcases hlowers before xs rest m hm hstop with hsame | hless
    · rw [hsame, weight_append, weight_append] at h
      rw [hsame, ih _ (Nat.add_left_cancel h)]
    · exact absurd h (hless _ (weight_scan_le hr hlowers _ rest) k).ne

/-- A pass that changes a text at a first place makes another text of it. -/
theorem ne_of_changes {Settled : List Char → Match → Prop}
    (hsettled : ∀ before xs rest m, matchAt? r ⟨0, before, xs ++ rest⟩ = some m →
      m.stop = xs.length → replacement (xs ++ rest) m = xs → Settled (xs ++ rest) m)
    {cs out : List Char} (h : Changes r replacement Settled cs out) : out ≠ cs := by
  obtain ⟨pre, xs, rest, m, before, after, hm, hstop, hunsettled⟩ := h
  rw [ne_eq, List.append_cancel_left_eq]
  intro heq
  rcases hlowers before xs rest m hm hstop with hsame | hless
  · exact hunsettled (hsettled before xs rest m hm hstop hsame)
  · have hlt := hless _ (weight_scan_le hr hlowers after rest) 0
    rw [heq] at hlt
    exact lt_irrefl _ hlt

end Pass

/-! ## The built-in passes -/

/-- The pass over URLs lowers the weight of every login that it changes. -/
theorem lowers_logins : Lowers inUrl.body ({} : Redactor).loginReplacement := by
  intro before xs rest m hm hstop
  obtain ⟨l, rfl, rfl⟩ := exists_login_of_stop hm hstop
  rw [Redactor.loginReplacement_found, Redactor.mask_default]
  by_cases hmask : l.pass = secretMask.toList
  · exact Or.inl (by rw [Login.text, hmask])
  · refine Or.inr fun out hout k => ?_
    have hopening : ∀ pass tail : List Char,
        l.scheme ++ (l.user ++ ':' :: (pass ++ ['@'])) ++ tail =
          (l.scheme ++ l.user ++ [':']) ++ (pass ++ '@' :: tail) := by
      simp
    have hsign : ('@' : Char) ≠ '*' := by decide
    have hout' : ∀ k, weight k ('@' :: out) ≤ weight k ('@' :: rest) := by
      intro k
      rw [weight_cons_of_ne k hsign, weight_cons_of_ne k hsign]
      exact Nat.add_le_add_left (hout 0) _
    rw [Login.text, hopening, hopening, weight_append k (l.scheme ++ l.user ++ [':']),
      weight_append k (l.scheme ++ l.user ++ [':']), starsAfter_concat k _ (by decide)]
    refine Nat.add_lt_add_left (weight_mask_append_lt l.pass_ne hmask ?_ hout') _
    rintro c ⟨⟩
    exact hsign

/-- The pass over headers lowers the weight of every header. -/
theorem lowers_authorizations : Lowers header.body ({} : Redactor).authorizationReplacement := by
  intro before xs rest m hm hstop
  obtain ⟨a, -, rfl, rfl⟩ := exists_authorization_of_stop hm hstop
  rw [Redactor.authorizationReplacement_found, Redactor.mask_default]
  refine Or.inr fun out hout k => ?_
  -- one blank is kept, as a space; the mask takes the place of the other ones and of the token
  obtain ⟨b, bs, hb⟩ := List.exists_cons_of_ne_nil a.blanks_ne
  have hblanks : '*' ∉ b :: bs := hb ▸ notMem_of_contains a.blanks_mem (by decide)
  have htoken : '*' ∉ a.token := notMem_of_contains a.token_mem (by decide)
  rw [List.mem_cons, not_or] at hblanks
  have hstars : '*' ∉ bs ++ a.token := by
    rw [List.mem_append, not_or]
    exact ⟨hblanks.2, htoken⟩
  have hne : bs ++ a.token ≠ [] := List.append_ne_nil_of_right_ne_nil _ a.token_ne
  have hload := two_mul_length_le_load 0 hstars
  have hlength := List.length_pos_iff.mpr hne
  have hlt := weight_mask_append_lt_of_load (v := bs ++ a.token) (by omega)
    (starsAfter_of_notMem 0 hne hstars) hout
  have htext : a.text ++ rest = a.opening ++ b :: ((bs ++ a.token) ++ rest) := by
    simp [Authorization.text, hb]
  rw [htext, List.append_assoc, List.cons_append, weight_append, weight_append,
    weight_cons_of_ne _ (by decide : (' ' : Char) ≠ '*'), weight_cons_of_ne _ (Ne.symm hblanks.1)]
  omega

/-- The separator of a pair has no stars. -/
theorem star_notMem_sep (p : Pair) : '*' ∉ p.sep := by
  have hsign : p.sign ≠ '*' := by
    rintro h
    have hmem := p.sign_mem
    rw [h] at hmem
    exact absurd hmem (by decide)
  rw [Pair.sep, List.mem_append, List.mem_append, List.mem_cons]
  simp only [not_or]
  exact ⟨⟨notMem_of_contains p.quote_mem (by decide), notMem_of_contains p.gap_mem (by decide)⟩,
    Ne.symm hsign, notMem_of_contains p.gap'_mem (by decide)⟩

/-- In the place of a value the mask weighs less. -/
theorem weight_mask_append_lt_of_isValue {value rest out : List Char} (hvalue : IsValue value rest)
    (hmask : value ≠ secretMask.toList) (hout : ∀ k, weight k out ≤ weight k rest) :
    weight 0 (secretMask.toList ++ out) < weight 0 (value ++ rest) := by
  have hquoted : ∀ mark, mark ≠ '*' → IsQuoted mark value →
      weight 0 (secretMask.toList ++ out) < weight 0 (value ++ rest) := by
    rintro mark hmark ⟨inner, rfl, -⟩
    -- the two quotation marks alone outweigh the mask
    refine weight_mask_append_lt_of_load ?_ (starsAfter_concat 0 (mark :: inner) hmark) hout
    rw [List.cons_append, load, if_neg hmark]
    omega
  rcases hvalue with hvalue | hvalue | ⟨hne, -, hstop⟩
  · exact hquoted '"' (by decide) hvalue
  · exact hquoted '\'' (by decide) hvalue
  · refine weight_mask_append_lt hne hmask ?_ hout
    rintro c hc rfl
    exact absurd (hstop _ hc) (by decide)

/-- The pass over keys and values lowers the weight of every value that it masks. -/
theorem lowers_pairs : Lowers pair.body ({} : Redactor).pairReplacement := by
  intro before xs rest m hm hstop
  obtain ⟨p, hvalue, rfl, rfl⟩ := exists_pair_of_stop hm hstop
  rw [Redactor.pairReplacement_found, Redactor.mask_default]
  by_cases hmasked : Redactor.IsMasked p.value
  · exact Or.inl (if_pos hmasked)
  · refine Or.inr fun out hout k => ?_
    have hne : p.value ≠ secretMask.toList := fun h => hmasked (Or.inl h)
    have hsep : p.sep ≠ [] := by simp [Pair.sep]
    rw [if_neg hmasked, Pair.text]
    simp only [List.append_assoc]
    rw [weight_append, weight_append k p.key, weight_append _ p.sep, weight_append _ p.sep,
      starsAfter_of_notMem _ hsep (star_notMem_sep p)]
    exact Nat.add_lt_add_left
      (Nat.add_lt_add_left (weight_mask_append_lt_of_isValue hvalue hne hout) _) _

/-! ## Texts that redaction leaves as they are -/

namespace Redactor

/-- A text that the pass over URLs leaves alone has no login but masked ones. -/
theorem logins_of_maskLogins_eq {cs : List Char} (h : ({} : Redactor).maskLogins cs = cs) :
    ∀ m ∈ inUrl.body.matches cs, ({} : Redactor).PasswordMasked cs m := by
  refine ((({} : Redactor).maskLogins_cases cs).resolve_right fun h' => ?_).2
  refine ne_of_changes neverEmpty_inUrl lowers_logins (fun before xs rest m hm hstop hsame => ?_) h'.1 h
  obtain ⟨l, rfl, rfl⟩ := exists_login_of_stop hm hstop
  rw [passwordMasked_found_iff]
  rw [loginReplacement_found, Login.text] at hsame
  simpa using hsame

/-- A text that the pass over headers leaves alone has no header. -/
theorem authorizations_of_maskAuthorizations_eq {cs : List Char}
    (h : ({} : Redactor).maskAuthorizations cs = cs) : header.body.matches cs = [] := by
  refine ((({} : Redactor).maskAuthorizations_cases cs).resolve_right fun h' => ?_).2
  refine ne_of_changes neverEmpty_header lowers_authorizations
    (fun before xs rest m hm hstop hsame => ?_) h'.1 h
  obtain ⟨a, -, rfl, rfl⟩ := exists_authorization_of_stop hm hstop
  rw [authorizationReplacement_found, mask_default, Authorization.text,
    List.append_cancel_left_eq] at hsame
  have hstar : '*' ∈ a.blanks ++ a.token := hsame ▸ (by decide)
  rcases List.mem_append.mp hstar with hstar | hstar
  · exact notMem_of_contains a.blanks_mem (by decide) hstar
  · exact notMem_of_contains a.token_mem (by decide) hstar

/-- A text that the pass over keys and values leaves alone has only masked values. -/
theorem pairs_of_maskPairs_eq {cs : List Char} (h : ({} : Redactor).maskPairs cs = cs) :
    ∀ m ∈ pair.body.matches cs, ValueMasked cs m := by
  refine ((({} : Redactor).maskPairs_cases cs).resolve_right fun h' => ?_).2
  refine ne_of_changes neverEmpty_pair lowers_pairs (fun before xs rest m hm hstop hsame => ?_) h'.1 h
  obtain ⟨p, -, rfl, rfl⟩ := exists_pair_of_stop hm hstop
  rw [valueMasked_found_iff]
  by_contra hmasked
  rw [pairReplacement_found, if_neg hmasked, mask_default, Pair.text, List.append_cancel_left_eq,
    List.append_cancel_left_eq] at hsame
  exact hmasked (Or.inl hsame.symm)

end Redactor

/-- The passes add no weight, and if they take none, each of them changes nothing. -/
theorem weight_passes (cs : List Char) :
    weight 0 (({} : Redactor).passes cs) ≤ weight 0 cs ∧
      (weight 0 (({} : Redactor).passes cs) = weight 0 cs →
        ({} : Redactor).maskLogins cs = cs ∧ ({} : Redactor).maskAuthorizations cs = cs ∧
          ({} : Redactor).maskPairs cs = cs) := by
  obtain ⟨xs, hxs⟩ : ∃ xs, xs = ({} : Redactor).maskLogins cs := ⟨_, rfl⟩
  obtain ⟨ys, hys⟩ : ∃ ys, ys = ({} : Redactor).maskAuthorizations xs := ⟨_, rfl⟩
  have hchars : ({} : Redactor).passes cs = ({} : Redactor).maskPairs ys := by
    rw [Redactor.passes, ← hxs, ← hys]
  have hlogins : weight 0 xs ≤ weight 0 cs :=
    hxs ▸ weight_scan_le neverEmpty_inUrl lowers_logins none cs 0
  have hauthorizations : weight 0 ys ≤ weight 0 xs :=
    hys ▸ weight_scan_le neverEmpty_header lowers_authorizations none xs 0
  have hpairs : weight 0 (({} : Redactor).passes cs) ≤ weight 0 ys :=
    hchars ▸ weight_scan_le neverEmpty_pair lowers_pairs none ys 0
  refine ⟨hpairs.trans (hauthorizations.trans hlogins), fun h => ?_⟩
  -- the weights in between lie between equal ones, so no pass takes any
  have hcs : ({} : Redactor).maskLogins cs = cs :=
    scan_eq_self_of_weight neverEmpty_inUrl lowers_logins none cs 0
      (show weight 0 (({} : Redactor).maskLogins cs) = _ by rw [← hxs]; omega)
  rw [hcs] at hxs
  subst hxs
  have hxs' : ({} : Redactor).maskAuthorizations xs = xs :=
    scan_eq_self_of_weight neverEmpty_header lowers_authorizations none xs 0
      (show weight 0 (({} : Redactor).maskAuthorizations xs) = _ by rw [← hys]; omega)
  rw [hxs'] at hys
  subst hys
  rw [hchars] at h
  exact ⟨hcs, hxs', scan_eq_self_of_weight neverEmpty_pair lowers_pairs none ys 0 h⟩

theorem toList_redact (text : String) : (redact text).toList = ({} : Redactor).passes text.toList := by
  rw [redact_eq, String.toList_ofList]

/-- Redaction leaves a text alone just if there is nothing to mask in it. -/
theorem redact_eq_self_iff (text : String) : redact text = text ↔ ({} : Redactor).Scrubbed text := by
  refine ⟨fun h => ?_, fun h => Redactor.redact_of_scrubbed h⟩
  obtain ⟨hlogins, hauthorizations, hpairs⟩ :=
    (weight_passes text.toList).2 (by rw [← toList_redact, h])
  exact ⟨Redactor.logins_of_maskLogins_eq hlogins,
    Redactor.authorizations_of_maskAuthorizations_eq hauthorizations,
    Redactor.pairs_of_maskPairs_eq hpairs⟩

/-- Redaction, with the mask or with digests, leaves a text as it is if and only if nothing is left in it
to be redacted. -/
theorem Redactor.redact_eq_self_iff (digests : Bool) (text : String) :
    ({ digests } : Redactor).redact text = text ↔ ({ digests } : Redactor).Scrubbed text := by
  cases digests with
  | false => exact ClusterMonitor.redact_eq_self_iff text
  | true => exact redact_correlating_eq_self_iff text

/-! ## Rounds of redaction -/

/-- A text weighs at most three for each of its characters. -/
theorem weight_le_three_mul_length (k : Nat) (cs : List Char) :
    weight k cs ≤ 3 * cs.length + strayStars k := by
  induction cs generalizing k with
  | nil => rw [weight_nil, List.length_nil, Nat.mul_zero, Nat.zero_add]
  | cons c cs ih =>
    rw [List.length_cons]
    by_cases hc : c = '*'
    · subst hc
      have hnext : weight k ('*' :: cs) = weight (k + 1) cs := by simp [weight, load, starsAfter]
      have hrest := ih (k + 1)
      have hstray := strayStars_le (k + 1)
      omega
    · have hrest := ih 0
      have hzero : strayStars 0 = 0 := rfl
      rw [weight_cons_of_ne k hc]
      omega

/-- After some rounds of redaction nothing is left to be redacted. -/
theorem exists_scrubbed_iterate (text : String) :
    ∃ n ≤ weight 0 text.toList, ({} : Redactor).Scrubbed (redact^[n] text) := by
  generalize hw : weight 0 text.toList = w
  induction w using Nat.strongRecOn generalizing text with
  | ind w ih =>
    -- a round that changes the text takes weight from it
    by_cases hsame : redact text = text
    · exact ⟨0, Nat.zero_le _, (redact_eq_self_iff text).mp hsame⟩
    · obtain ⟨hle, hfix⟩ := weight_passes text.toList
      have hne : weight 0 (({} : Redactor).passes text.toList) ≠ weight 0 text.toList := by
        intro h
        obtain ⟨hlogins, hauthorizations, hpairs⟩ := hfix h
        refine hsame (String.toList_inj.mp ?_)
        rw [toList_redact, Redactor.passes, hlogins, hauthorizations, hpairs]
      rw [← toList_redact] at hle hne
      obtain ⟨n, hn, hscrubbed⟩ := ih _ (by omega) (redact text) rfl
      exact ⟨n + 1, by omega, hscrubbed⟩

/-- With the mask and with digests, redacting a text once more changes nothing if and only if nothing is
left in it to be redacted. With the mask there is in any case a number of rounds, linear in the length of
the text, after which more rounds change nothing. -/
theorem redact_redact_eq_iff (text : String) :
    (∀ digests, let r : Redactor := { digests }
      r.redact (r.redact text) = r.redact text ↔ r.Scrubbed (r.redact text)) ∧
      ∃ n ≤ 3 * text.length, ∀ m ≥ n, redact^[m] text = redact^[n] text := by
  refine ⟨fun digests => Redactor.redact_eq_self_iff digests _, ?_⟩
  obtain ⟨n, hn, hscrubbed⟩ := exists_scrubbed_iterate text
  have hbound := weight_le_three_mul_length 0 text.toList
  have hzero : strayStars 0 = 0 := rfl
  rw [String.length_toList] at hbound
  refine ⟨n, by omega, fun m hm => ?_⟩
  obtain ⟨k, rfl⟩ := Nat.exists_eq_add_of_le hm
  rw [Nat.add_comm, Function.iterate_add_apply]
  exact Function.iterate_fixed ((redact_eq_self_iff _).mpr hscrubbed) k

/-- The brace behind a quoted value is taken for a part of the mask. -/
theorem redact_loses_brace :
    let text := "\x7b\"password\": \"hunter2\"\x7d"
    redact text = "\x7b\"password\": ********\x7d" ∧
      redact (redact text) = "\x7b\"password\": ********" ∧ redact (redact text) ≠ redact text := by
  intro text
  have hchars : ({} : Redactor).passes text.toList = "\x7b\"password\": ********\x7d".toList ∧
      ({} : Redactor).passes "\x7b\"password\": ********\x7d".toList =
        "\x7b\"password\": ********".toList := by
    -- evaluated with the patterns compiled, and not with their texts
    unfold Redactor.passes Redactor.maskLogins Redactor.maskAuthorizations Redactor.maskPairs
      Redactor.loginReplacement Redactor.authorizationReplacement Redactor.pairReplacement
    simp only [inUrl_eq, header_eq, pair_eq]
    decide +kernel
  have honce : redact text = "\x7b\"password\": ********\x7d" := by
    rw [redact_eq, hchars.1, String.ofList_toList]
  have htwice : redact (redact text) = "\x7b\"password\": ********" := by
    rw [honce, redact_eq, hchars.2, String.ofList_toList]
  refine ⟨honce, htwice, ?_⟩
  rw [htwice, honce]
  decide

end ClusterMonitor

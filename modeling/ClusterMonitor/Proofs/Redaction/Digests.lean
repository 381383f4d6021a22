import ClusterMonitor.Proofs.Redaction.Scrubbed
import ClusterMonitor.Proofs.Redaction.Starts
import Mathlib.Data.List.Chain

/-!
# Digests in the place of secrets

What stands in the place of a secret is itself text that the passes read. Where it holds a digest, no
value of a key can start within it: the only sign in it is the padding at its end, and by the arithmetic
of the digits before the padding no key ends there.

* `OpensValue` — a value of a key can follow the text; `Unbroken` and `Smooth` — nowhere in a text.
* `exists_shortDigest` — the digits of a short digest.
* `smooth_bracketed` — no value starts within a digest.
-/

namespace ClusterMonitor

open Regex Credentials Unicode

/-! ## Where a value can start -/

namespace Credentials

/-- Is the character one of the signs between keys and values? -/
def isSign (c : Char) : Bool := ['=', ':'].contains c

/-- Is the character neither a sign nor a blank? -/
def isPlain (c : Char) : Bool := !isSign c && !isBlank c

theorem isPlain_iff {c : Char} : isPlain c = true ↔ isSign c = false ∧ isBlank c = false := by
  simp [isPlain]

/-- A value of a key can follow the text. -/
def OpensValue (cs : List Char) : Prop := ∃ (p : Pair) (pre : List Char), cs = pre ++ (p.key ++ p.sep)

/-- A key is never empty. -/
theorem Pair.key_ne (p : Pair) : p.key ≠ [] := by
  obtain ⟨word, hword, hspells⟩ := p.key_spells
  have hne : ∀ word ∈ keyWords, caselessSets word ≠ [] := by decide
  obtain ⟨c, cs, hkey⟩ := hspells.exists_cons (hne word hword)
  simp [hkey]

theorem Pair.isSign_sign (p : Pair) : isSign p.sign = true :=
  List.contains_iff_mem.mpr ((CharSet.contains_ofChars _ _).mp p.sign_mem)

/-- A sign at the end stands behind a key. -/
theorem OpensValue.exists_key {cs : List Char} {y : Char} (h : OpensValue (cs ++ [y]))
    (hy : isBlank y = false) :
    isSign y = true ∧ ∃ (p : Pair) (pre : List Char), cs = pre ++ (p.key ++ (p.quote ++ p.gap)) := by
  obtain ⟨p, pre, hcs⟩ := h
  rcases List.eq_nil_or_concat' p.gap' with hgap | ⟨gap, z, hgap⟩
  · have hsplit : cs ++ [y] = (pre ++ (p.key ++ (p.quote ++ p.gap))) ++ [p.sign] := by
      simpa [Pair.sep, hgap] using hcs
    obtain ⟨rfl, rfl⟩ := List.append_singleton_inj.mp hsplit
    exact ⟨p.isSign_sign, p, pre, rfl⟩
  · have hsplit : cs ++ [y] = (pre ++ (p.key ++ (p.quote ++ (p.gap ++ p.sign :: gap)))) ++ [z] := by
      simpa [Pair.sep, hgap] using hcs
    obtain ⟨-, rfl⟩ := List.append_singleton_inj.mp hsplit
    have hblank : isBlank y = true := p.gap'_mem y (by simp [hgap])
    rw [hy] at hblank
    cases hblank

/-- A sign right behind a character that stands neither between keys and signs nor behind quoted keys:
the key ends with the character. -/
theorem OpensValue.exists_key_concat {cs : List Char} {x y : Char} (h : OpensValue ((cs ++ [x]) ++ [y]))
    (hy : isBlank y = false) (hx : isBlank x = false) (hmark : x ≠ '"') :
    ∃ (p : Pair) (pre ys : List Char), p.key = ys ++ [x] ∧ cs = pre ++ ys := by
  obtain ⟨-, p, pre, hkey⟩ := h.exists_key hy
  have hgap : p.gap = [] := by
    rcases List.eq_nil_or_concat' p.gap with hgap | ⟨gap, g, hgap⟩
    · exact hgap
    · have hsplit : cs ++ [x] = (pre ++ (p.key ++ (p.quote ++ gap))) ++ [g] := by simpa [hgap] using hkey
      obtain ⟨-, rfl⟩ := List.append_singleton_inj.mp hsplit
      have hblank : isBlank x = true := p.gap_mem x (by simp [hgap])
      rw [hx] at hblank
      cases hblank
  have hquote : p.quote = [] := by
    rcases List.eq_nil_or_concat' p.quote with hquote | ⟨quote, q, hquote⟩
    · exact hquote
    · have hsplit : cs ++ [x] = (pre ++ (p.key ++ quote)) ++ [q] := by simpa [hgap, hquote] using hkey
      obtain ⟨-, rfl⟩ := List.append_singleton_inj.mp hsplit
      exact absurd ((CharSet.contains_singleton _ _).mp (p.quote_mem x (by simp [hquote]))) hmark
  rw [hgap, hquote, List.append_nil, List.append_nil] at hkey
  obtain ⟨ys, k, hys⟩ := (List.eq_nil_or_concat' p.key).resolve_left p.key_ne
  have hsplit : cs ++ [x] = (pre ++ ys) ++ [k] := by simpa [hys] using hkey
  obtain ⟨hcs, rfl⟩ := List.append_singleton_inj.mp hsplit
  exact ⟨p, pre, ys, hys, hcs⟩

/-- A blank at the end stands behind a sign or another blank. -/
theorem OpensValue.isSign_or_isBlank {cs : List Char} {x y : Char} (h : OpensValue (cs ++ [x, y]))
    (hsign : isSign y = false) : isSign x = true ∨ isBlank x = true := by
  obtain ⟨p, pre, hcs⟩ := h
  rcases List.eq_nil_or_concat' p.gap' with hgap | ⟨gap, z, hgap⟩
  · have hsplit : (cs ++ [x]) ++ [y] = (pre ++ (p.key ++ (p.quote ++ p.gap))) ++ [p.sign] := by
      simpa [Pair.sep, hgap] using hcs
    obtain ⟨-, rfl⟩ := List.append_singleton_inj.mp hsplit
    rw [p.isSign_sign] at hsign
    cases hsign
  · rcases List.eq_nil_or_concat' gap with rfl | ⟨gap, x', rfl⟩
    · have hsplit : cs ++ [x, y] = (pre ++ (p.key ++ (p.quote ++ p.gap))) ++ [p.sign, z] := by
        simpa [Pair.sep, hgap] using hcs
      obtain ⟨-, hxy⟩ := List.append_inj' hsplit rfl
      rw [(List.cons.inj hxy).1]
      exact Or.inl p.isSign_sign
    · have hsplit : cs ++ [x, y] =
          (pre ++ (p.key ++ (p.quote ++ (p.gap ++ p.sign :: gap)))) ++ [x', z] := by
        simpa [Pair.sep, hgap] using hcs
      obtain ⟨-, hxy⟩ := List.append_inj' hsplit rfl
      rw [(List.cons.inj hxy).1]
      exact Or.inr (p.gap'_mem x' (by simp [hgap]))

/-- Behind the character, no value can start within the text or at its end. -/
def Unbroken (l : Char) (cs : List Char) : Prop :=
  ∀ start zs, zs ≠ [] → zs <+: cs → ¬OpensValue (start ++ l :: zs)

/-- The text is unbroken behind any character. -/
def Smooth (cs : List Char) : Prop := ∀ l, Unbroken l cs

/-- A prefix of two texts ends in the first, or takes all of it and ends in the second. -/
theorem prefix_append_iff {xs us vs : List Char} :
    xs <+: us ++ vs ↔ xs <+: us ∨ ∃ ws, xs = us ++ ws ∧ ws <+: vs := by
  constructor
  · rintro ⟨ts, hts⟩
    rcases List.append_eq_append_iff.mp hts with ⟨as, rfl, -⟩ | ⟨bs, rfl, rfl⟩
    · exact Or.inl (List.prefix_append xs as)
    · exact Or.inr ⟨bs, rfl, List.prefix_append bs ts⟩
  · rintro (h | ⟨ws, rfl, h⟩)
    · exact h.trans (List.prefix_append us vs)
    · exact (List.prefix_append_right_inj us).mpr h

/-- Two smooth texts make a smooth one. -/
theorem Smooth.append {us vs : List Char} (hus : Smooth us) (hvs : Smooth vs) : Smooth (us ++ vs) := by
  intro l start zs hne hzs h
  rcases prefix_append_iff.mp hzs with hzs | ⟨ws, rfl, hws⟩
  · exact hus l start zs hne hzs h
  · rcases List.eq_nil_or_concat' us with rfl | ⟨us, y, rfl⟩
    · exact hvs l start ws hne hws h
    · by_cases hwsNe : ws = []
      · exact hus l start (us ++ [y]) (by simp) List.prefix_rfl (by simpa [hwsNe] using h)
      · exact hvs y (start ++ l :: us) ws hwsNe hws (by simpa using h)

/-- Plain characters make a smooth text. -/
theorem smooth_of_all {cs : List Char} (h : cs.all isPlain = true) : Smooth cs := by
  intro l start zs hne hzs hopens
  obtain ⟨ys, y, rfl⟩ := (List.eq_nil_or_concat' zs).resolve_left hne
  obtain ⟨hsign, hblank⟩ := isPlain_iff.mp (List.all_eq_true.mp h y (hzs.mem (by simp)))
  have hopens' : OpensValue ((start ++ l :: ys) ++ [y]) := by simpa using hopens
  rw [(hopens'.exists_key hblank).1] at hsign
  cases hsign

theorem unbroken_cons {l c : Char} (hl : isPlain l = true) (hc : isSign c = false) {cs : List Char}
    (hcs : Smooth cs) : Unbroken l (c :: cs) := by
  rintro start zs hne hzs hopens
  obtain ⟨hsign, hblank⟩ := isPlain_iff.mp hl
  obtain ⟨z, zs, rfl⟩ := List.exists_cons_of_ne_nil hne
  obtain ⟨rfl, hzs'⟩ := List.cons_prefix_cons.mp hzs
  by_cases hzsNe : zs = []
  · subst hzsNe
    rcases hopens.isSign_or_isBlank hc with h | h
    · rw [hsign] at h
      cases h
    · rw [hblank] at h
      cases h
  · exact hcs z (start ++ [l]) zs hzsNe hzs' (by simpa using hopens)

/-! ## Keys in digests -/

/-- No key is made of digits of which the last one has a multiple of four for its number: the only key
that could end with such a digit has an underscore. -/
theorem not_spells_digits {word : String} (hword : word ∈ keyWords) {ys : List Char} {m : Nat}
    (hys : ∀ c ∈ ys, ∃ n < 64, c = Base64.digit n) (hm : m < 16) :
    ¬Spells word (ys ++ [Base64.digit (4 * m)]) := by
  have hall : ∀ word ∈ keyWords, (∃ s ∈ caselessSets word, ∀ n < 64, s.contains (Base64.digit n) = false) ∨
      ∀ m < 16, endsWord word (Base64.digit (4 * m)) = false := by
    decide +kernel
  intro h
  rcases hall word hword with ⟨s, hs, hnone⟩ | hlast
  · obtain ⟨c, hc, hsc⟩ := exists_mem_of_spells h.length h.spells hs
    obtain ⟨n, hn, rfl⟩ : ∃ n < 64, c = Base64.digit n := by
      rcases List.mem_append.mp hc with hc | hc
      · exact hys c hc
      · exact ⟨4 * m, by omega, List.mem_singleton.mp hc⟩
    rw [hnone n hn] at hsc
    cases hsc
  · have hends := h.endsWord
    rw [hlast m hm] at hends
    cases hends

end Credentials

/-! ## What a digest is made of -/

/-- A digest has at least eight bytes. -/
theorem exists_take_digest (bytes : List UInt8) :
    ∃ a b c d e f g h, (Sha256.digest bytes).take 8 = [a, b, c, d, e, f, g, h] :=
  ⟨_, _, _, _, _, _, _, _, rfl⟩

/-- A short digest: ten digits, one whose number is a multiple of four, and padding. -/
theorem exists_shortDigest (secret : String) :
    ∃ (ns : List Nat) (m : Nat), (∀ n ∈ ns, n < 64) ∧ m < 16 ∧
      (Redactor.shortDigest secret).toList =
        ns.map Base64.digit ++ [Base64.digit (4 * m), '='] := by
  obtain ⟨a, b, c, d, e, f, g, h, hbytes⟩ := exists_take_digest (Text.encode secret)
  have hlast : (g.toNat * 65536 + h.toNat * 256) / 64 % 64 =
      4 * ((g.toNat * 65536 + h.toNat * 256) / 256 % 16) := by omega
  have hlt : ∀ x : UInt8, x.toNat < 256 := fun x => x.toNat_lt
  have ha := hlt a
  have hb := hlt b
  have hc := hlt c
  have hd := hlt d
  have he := hlt e
  have hf := hlt f
  have hg := hlt g
  have hh := hlt h
  rw [Redactor.shortDigest, hbytes, String.toList_ofList]
  simp only [Base64.encode, hlast]
  refine ⟨[_, _, _, _, _, _, _, _, _, _], _, ?_, ?_, rfl⟩
  · simp only [List.forall_mem_cons, List.not_mem_nil, false_imp_iff, implies_true, and_true]
    omega
  · omega

/-- A digest in its brackets. -/
def bracketed (secret : String) : List Char := '[' :: ((Redactor.shortDigest secret).toList ++ [']'])

theorem bracketed_ne_nil (secret : String) : bracketed secret ≠ [] := List.cons_ne_nil _ _

/-- The word before a digest. -/
def digestWord : List Char := ['H', 'A', 'S', 'H']

theorem toList_digestOpening : digestOpening.toList = digestWord ++ ['['] := rfl

/-- With digests, the mask is the word and the digest in brackets. -/
theorem Redactor.toList_mask (secret : String) :
    (({ digests := true } : Redactor).mask secret).toList = digestWord ++ bracketed secret := by
  have hmask : ({ digests := true } : Redactor).mask secret =
      digestOpening ++ shortDigest secret ++ "]" := if_pos rfl
  have hmark : "]".toList = [']'] := rfl
  -- step by step, since a simplification is checked by evaluating the digest
  rw [hmask, String.toList_append, String.toList_append, toList_digestOpening, hmark, bracketed,
    List.append_assoc, List.append_assoc, List.singleton_append]

/-- The word with what follows it is an opening with a short digest and its closing bracket. -/
theorem digestWord_append_bracketed (secret : String) (rest : List Char) :
    digestWord ++ bracketed secret ++ rest =
      digestOpening.toList ++ ((Redactor.shortDigest secret).toList ++ ']' :: rest) := by
  rw [toList_digestOpening, bracketed, List.append_assoc, List.append_assoc, List.cons_append,
    List.append_assoc, List.singleton_append, List.singleton_append]

/-- A digest in brackets has neither a colon nor an at sign nor a blank. -/
theorem mem_bracketed {secret : String} {c : Char} (h : c ∈ bracketed secret) :
    c ∉ [':', '@'] ∧ isBlank c = false := by
  have hdigit : ∀ n < 64, Base64.digit n ∉ [':', '@'] ∧ isBlank (Base64.digit n) = false := by decide
  obtain ⟨ns, m, hns, hm, hdigest⟩ := exists_shortDigest secret
  rw [bracketed, hdigest] at h
  simp only [List.mem_cons, List.mem_append, List.mem_map, List.not_mem_nil, or_false] at h
  rcases h with rfl | (⟨n, hn, rfl⟩ | rfl | rfl) | rfl
  · decide
  · exact hdigit n (hns n hn)
  · exact hdigit (4 * m) (by omega)
  · decide
  · decide

/-- No digit has a place between a key and its value. -/
theorem isPlain_digit : ∀ n < 64, isPlain (Base64.digit n) = true ∧ Base64.digit n ≠ '"' := by
  decide

/-- Before the padding of a digest there is no key. -/
theorem not_opensValue_padding {ds : List Char} {m : Nat}
    (hds : ∀ c ∈ ds, ∃ n < 64, c = Base64.digit n) (hm : m < 16) (cs : List Char) :
    ¬OpensValue ((cs ++ '[' :: (ds ++ [Base64.digit (4 * m)])) ++ ['=']) := by
  intro hopens
  obtain ⟨hplain, hmark⟩ := isPlain_digit (4 * m) (by omega)
  rw [← List.cons_append, ← List.append_assoc] at hopens
  obtain ⟨p, pre, ys, hkey, hcs⟩ := hopens.exists_key_concat (by decide) (isPlain_iff.mp hplain).2 hmark
  obtain ⟨word, hword, hspells⟩ := p.key_spells
  have hall : ∀ word ∈ keyWords, ∀ s ∈ caselessSets word, s.contains '[' = false := by decide
  have hnone := hspells.notMem (hall word hword)
  rw [hkey] at hspells hnone
  -- the key does not reach beyond the bracket
  have hsuffix := suffix_of_append_cons_eq (fun h => hnone (List.mem_append_left _ h)) hcs
  exact not_spells_digits hword (fun c hc => hds c (hsuffix.mem hc)) hm hspells

/-- No value can start within a digest. -/
theorem smooth_bracketed (secret : String) : Smooth (bracketed secret) := by
  obtain ⟨ns, m, hns, hm, hdigest⟩ := exists_shortDigest secret
  have hds : ∀ c ∈ ns.map Base64.digit, ∃ n < 64, c = Base64.digit n := by
    intro c hc
    obtain ⟨n, hn, rfl⟩ := List.mem_map.mp hc
    exact ⟨n, hns n hn, rfl⟩
  have hbody : Smooth ('[' :: (ns.map Base64.digit ++ [Base64.digit (4 * m)])) := by
    refine smooth_of_all (List.all_eq_true.mpr ?_)
    rw [List.forall_mem_cons, List.forall_mem_append, List.forall_mem_singleton]
    refine ⟨by decide, fun c hc => ?_, (isPlain_digit (4 * m) (by omega)).1⟩
    obtain ⟨n, hn, rfl⟩ := hds c hc
    exact (isPlain_digit n hn).1
  have hpadded : Smooth (('[' :: (ns.map Base64.digit ++ [Base64.digit (4 * m)])) ++ ['=']) := by
    intro l start zs hne hzs hopens
    rcases List.prefix_concat_iff.mp hzs with rfl | hzs
    · exact not_opensValue_padding hds hm (start ++ [l]) (by simpa using hopens)
    · exact hbody l start zs hne hzs hopens
  have hsplit : bracketed secret =
      (('[' :: (ns.map Base64.digit ++ [Base64.digit (4 * m)])) ++ ['=']) ++ [']'] := by
    simp [bracketed, hdigest]
  rw [hsplit]
  exact hpadded.append (smooth_of_all (by decide))

/-- What stands in the place of a secret. -/
theorem Redactor.mem_mask {secret : String} {c : Char}
    (h : c ∈ (({ digests := true } : Redactor).mask secret).toList) :
    c ∉ [':', '@'] ∧ isBlank c = false := by
  rw [toList_mask, List.mem_append] at h
  rcases h with h | h
  · simp only [digestWord, List.mem_cons, List.not_mem_nil, or_false] at h
    rcases h with rfl | rfl | rfl | rfl <;> decide
  · exact mem_bracketed h

/-- With digests, the mask is smooth. -/
theorem Redactor.smooth_mask (secret : String) :
    Smooth (({ digests := true } : Redactor).mask secret).toList := by
  rw [toList_mask]
  exact (smooth_of_all (by decide)).append (smooth_bracketed secret)

/-- With digests, the mask begins as a digest does. -/
theorem Redactor.opening_prefix_mask (secret : String) :
    digestOpening.toList <+: (({ digests := true } : Redactor).mask secret).toList := by
  rw [toList_mask, toList_digestOpening, List.prefix_append_right_inj, bracketed]
  exact List.cons_prefix_cons.mpr ⟨rfl, List.nil_prefix⟩

end ClusterMonitor

import ClusterMonitor.Regex.Parser
import Mathlib.Data.List.Infix

/-!
# Reading with a closing parenthesis after the text

Whatever a reader reads of a text, it reads as well when a closing parenthesis follows the text, and
then it leaves the parenthesis. The exception is a comment that reaches the end of the text: it goes
on through the parenthesis.

* `MayEndInComment` — texts of which a comment can reach the end.
* `Followed` — what is left of a text, and what is left when the parenthesis follows it.
* `Followed.skip` — the one step that can swallow the parenthesis.
* `readEscape?_followed`, `readBracket?_followed`, `readGroupStart?_followed` and
  `readRepetition?_followed` — the readers of the tokens; each rests on the like of it for the
  readers that it calls.
-/

namespace ClusterMonitor.Regex

/-! ## A parenthesis after a text -/

/-- A hash mark stands in the last line. Where blanks are ignored, a comment may begin there and
swallow whatever follows the text. -/
def MayEndInComment (cs : List Char) : Prop :=
  ∃ before after, cs = before ++ '#' :: after ∧ '\n' ∉ after

/-- More text before it does not end a comment. -/
theorem MayEndInComment.cons {cs : List Char} (h : MayEndInComment cs) (c : Char) :
    MayEndInComment (c :: cs) := by
  obtain ⟨before, after, rfl, hafter⟩ := h
  exact ⟨c :: before, after, rfl, hafter⟩

/-- If the end of a text may lie in a comment, then so may the end of the whole text. -/
theorem MayEndInComment.of_suffix {cs whole : List Char} (h : MayEndInComment cs)
    (hsuffix : cs <:+ whole) : MayEndInComment whole := by
  obtain ⟨start, rfl⟩ := hsuffix
  obtain ⟨before, after, rfl, hafter⟩ := h
  exact ⟨start ++ before, after, by simp, hafter⟩

/-- `cs` is left of the text `whole`, and `cs'` is left of it when a closing parenthesis follows it:
the same with the parenthesis, or nothing in either case because a comment has swallowed the
parenthesis. That takes a place where blanks are ignored. -/
def Followed (whole : List Char) (ignoring : Prop) (cs cs' : List Char) : Prop :=
  cs <:+ whole ∧
    (cs' = cs ++ [')'] ∨ cs = [] ∧ cs' = [] ∧ ignoring ∧ MayEndInComment whole)

/-- Blanks and comments are dropped alike with a parenthesis after them, unless the last comment goes
up to the end. -/
theorem dropBlanks_append (inComment : Bool) (cs : List Char) :
    dropBlanks inComment (cs ++ [')']) = dropBlanks inComment cs ++ [')'] ∨
      dropBlanks inComment cs = [] ∧ dropBlanks inComment (cs ++ [')']) = [] ∧
        (MayEndInComment cs ∨ inComment = true ∧ '\n' ∉ cs) := by
  fun_induction dropBlanks inComment cs with
  | case1 inComment =>
    cases inComment with
    | false => exact Or.inl rfl
    | true => exact Or.inr ⟨rfl, rfl, Or.inr ⟨rfl, List.not_mem_nil⟩⟩
  | case2 c rest ih =>
    -- inside a comment, which ends at a line feed
    simp only [List.cons_append, dropBlanks, if_true]
    refine ih.imp_right fun ⟨hleft, hleft', hcomment⟩ => ⟨hleft, hleft', ?_⟩
    rcases hcomment with hcomment | ⟨hc, hrest⟩
    · exact Or.inl (hcomment.cons c)
    · have hne : '\n' ≠ c := fun heq => by simp [← heq] at hc
      exact Or.inr ⟨trivial, List.not_mem_cons_of_ne_of_not_mem hne hrest⟩
  | case3 inComment c rest hout hblank ih =>
    simp only [List.cons_append, dropBlanks, hout, hblank, if_true]
    refine ih.imp_right fun ⟨hleft, hleft', hcomment⟩ => ⟨hleft, hleft', ?_⟩
    exact hcomment.imp (fun h => h.cons c) fun h => absurd h.1 Bool.false_ne_true
  | case4 inComment rest hout hblank ih =>
    -- a comment begins
    simp only [List.cons_append, dropBlanks, hout, hblank, if_true]
    refine ih.imp_right fun ⟨hleft, hleft', hcomment⟩ => ⟨hleft, hleft', Or.inl ?_⟩
    rcases hcomment with hcomment | ⟨-, hrest⟩
    · exact hcomment.cons '#'
    · exact ⟨[], rest, rfl, hrest⟩
  | case5 inComment c rest hout hblank hhash => simp [dropBlanks, hout, hblank, hhash]

/-- Dropping blanks and comments leaves an end of the text. -/
theorem dropBlanks_suffix (inComment : Bool) (cs : List Char) : dropBlanks inComment cs <:+ cs := by
  fun_induction dropBlanks inComment cs with
  | case1 => exact List.suffix_rfl
  | case2 _ _ ih => exact ih.trans (List.suffix_cons _ _)
  | case3 _ _ _ _ _ ih => exact ih.trans (List.suffix_cons _ _)
  | case4 _ _ _ _ ih => exact ih.trans (List.suffix_cons _ _)
  | case5 => exact List.suffix_rfl

/-- What is left after skipping is an end of the text. -/
theorem skip_suffix (blanks : Bool) (cs : List Char) : skip blanks cs <:+ cs := by
  cases blanks with
  | false => exact List.suffix_rfl
  | true => exact dropBlanks_suffix false cs

namespace Followed

variable {whole cs cs' : List Char} {ignoring : Prop}

/-- Both texts have the same next character, and stay related behind it. -/
theorem cons {c : Char} (h : Followed whole ignoring (c :: cs) cs') :
    ∃ rest', cs' = c :: rest' ∧ Followed whole ignoring cs rest' := by
  obtain ⟨hsuffix, rfl | ⟨hnil, -⟩⟩ := h
  · exact ⟨cs ++ [')'], rfl, (List.suffix_cons c cs).trans hsuffix, Or.inl rfl⟩
  · cases hnil

/-- What the text does not begin with, it does not begin with when the parenthesis follows. -/
theorem ne_cons {c : Char} (h : Followed whole ignoring cs cs') (hc : c ≠ ')')
    (hcs : ∀ rest, cs = c :: rest → False) (rest : List Char) : cs' ≠ c :: rest := by
  rintro rfl
  cases cs with
  | nil =>
    obtain ⟨-, heq | ⟨-, heq, -⟩⟩ := h
    · exact hc (List.cons.inj heq).1
    · cases heq
  | cons d after =>
    obtain ⟨after', heq, -⟩ := h.cons
    exact hcs after (by rw [(List.cons.inj heq).1])

/-- Two characters that are no parenthesis stand at the front of both texts or of neither. -/
theorem ne_cons_cons {c d : Char} (h : Followed whole ignoring cs cs') (hc : c ≠ ')') (hd : d ≠ ')')
    (hcs : ∀ rest, cs = c :: d :: rest → False) (rest : List Char) : cs' ≠ c :: d :: rest := by
  rintro rfl
  cases cs with
  | nil => exact h.ne_cons hc (by simp) _ rfl
  | cons e after =>
    obtain ⟨after', heq, hafter⟩ := h.cons
    cases heq
    exact hafter.ne_cons hd (fun rest heq => hcs rest (by rw [heq])) _ rfl

/-- The longer text is not used up before the shorter one. -/
theorem ne_nil (h : Followed whole ignoring cs cs') (hcs : cs ≠ []) : cs' ≠ [] := by
  obtain ⟨-, rfl | ⟨rfl, -⟩⟩ := h
  · simp
  · exact absurd rfl hcs

/-- A run of characters that no parenthesis is part of is the same in both texts. -/
theorem takeWhile {p : Char → Bool} (h : Followed whole ignoring cs cs') (hp : p ')' = false) :
    cs'.takeWhile p = cs.takeWhile p := by
  obtain ⟨-, rfl | ⟨rfl, rfl, -⟩⟩ := h
  · rw [List.takeWhile_append, List.takeWhile_cons_of_neg (by simp [hp]), List.append_nil]
    split_ifs with hall
    · exact ((List.takeWhile_prefix p).eq_of_length hall).symm
    · rfl
  · rfl

/-- Behind such a run the texts stay related. -/
theorem dropWhile {p : Char → Bool} (h : Followed whole ignoring cs cs') (hp : p ')' = false) :
    Followed whole ignoring (cs.dropWhile p) (cs'.dropWhile p) := by
  obtain ⟨hsuffix, rfl | hboth⟩ := h
  · refine ⟨(List.dropWhile_suffix p).trans hsuffix, Or.inl ?_⟩
    rw [List.dropWhile_append, List.dropWhile_cons_of_neg (by simp [hp])]
    split_ifs with hempty
    · rw [List.isEmpty_iff.mp hempty, List.nil_append]
    · rfl
  · obtain ⟨rfl, rfl, hopen⟩ := hboth
    exact ⟨hsuffix, Or.inr ⟨rfl, rfl, hopen⟩⟩

/-- The followed text is at least as long, so that fuel for it is fuel enough. -/
theorem length_le (h : Followed whole ignoring cs cs') : cs.length ≤ cs'.length := by
  obtain ⟨-, rfl | ⟨rfl, -⟩⟩ := h
  · simp
  · exact Nat.zero_le _

/-- At the end of the text, the parenthesis is what is left, unless it has been swallowed by a
comment. -/
theorem nil (h : Followed whole ignoring [] cs') : cs' = [')'] ∨ cs' = [] := by
  obtain ⟨-, rfl | ⟨-, rfl, -⟩⟩ := h
  · exact Or.inl rfl
  · exact Or.inr rfl

/-- Blanks and comments may be skipped where that is admitted. -/
theorem skip {blanks : Bool} (h : Followed whole ignoring cs cs') (hb : blanks = true → ignoring) :
    Followed whole ignoring (Regex.skip blanks cs) (Regex.skip blanks cs') := by
  cases blanks with
  | false => exact h
  | true =>
    obtain ⟨hsuffix, rfl | ⟨rfl, rfl, hopen⟩⟩ := h
    · refine ⟨(dropBlanks_suffix false cs).trans hsuffix, ?_⟩
      refine (dropBlanks_append false cs).imp_right fun ⟨hleft, hleft', hcomment⟩ => ?_
      refine ⟨hleft, hleft', hb rfl, ?_⟩
      rcases hcomment with hcomment | ⟨hno, -⟩
      · exact hcomment.of_suffix hsuffix
      · cases hno
    · exact ⟨hsuffix, Or.inr ⟨rfl, rfl, hopen⟩⟩

end Followed

/-! ## Escapes

In every reader the text is taken apart from the left; `Followed.cons` takes the same characters from
the text with the parenthesis. Where the text offers nothing that a reader looks for,
`Followed.ne_cons` keeps the parenthesis from being taken for it. -/

section Readers

variable {whole : List Char} {ignoring : Prop} {blanks : Bool} {cs cs' rest : List Char}

/-- A reader that wraps what another one reads is not disturbed by the parenthesis if that one is
not. -/
theorem map_followed {α β : Type} {read read' : Option (α × List Char)} {f : α → β} {w : β}
    (hread : ∀ v left, read = some (v, left) →
      ∃ left', read' = some (v, left') ∧ Followed whole ignoring left left')
    (h : (read.map fun (v, rest) => (f v, rest)) = some (w, rest)) :
    ∃ rest', (read'.map fun (v, rest) => (f v, rest)) = some (w, rest') ∧
      Followed whole ignoring rest rest' := by
  obtain ⟨⟨v, left⟩, hv, heq⟩ := Option.map_eq_some_iff.mp h
  cases heq
  obtain ⟨rest', hv', hrest⟩ := hread v rest hv
  exact ⟨rest', by rw [hv', Option.map_some], hrest⟩

/-- A fixed number of hexadecimal digits is read in the same way when a parenthesis follows the
text. So is all that is read below, each reader leaving related texts behind. -/
theorem readHexDigits?_followed (hb : blanks = true → ignoring) {count n v : Nat}
    (hF : Followed whole ignoring cs cs')
    (h : readHexDigits? blanks count n cs = some (v, rest)) :
    ∃ rest', readHexDigits? blanks count n cs' = some (v, rest') ∧
      Followed whole ignoring rest rest' := by
  induction count generalizing n cs cs' with
  | zero =>
    cases h
    exact ⟨cs', rfl, hF⟩
  | succ count ih =>
    cases cs with
    | nil => cases h
    | cons c after =>
      obtain ⟨after', rfl, hafter⟩ := hF.cons
      simp only [readHexDigits?] at h ⊢
      cases hd : hexValue? c with
      | none => simp [hd] at h
      | some d =>
        rw [hd] at h
        exact ih (hafter.skip hb) h

/-- Hexadecimal digits in braces. -/
theorem readBracedHex?_followed (hb : blanks = true → ignoring) {fuel fuel' v : Nat}
    (hfuel : fuel ≤ fuel') {read : Option Nat} (hF : Followed whole ignoring cs cs')
    (h : readBracedHex? blanks fuel read cs = some (v, rest)) :
    ∃ rest', readBracedHex? blanks fuel' read cs' = some (v, rest') ∧
      Followed whole ignoring rest rest' := by
  fun_induction readBracedHex? blanks fuel read cs generalizing fuel' cs' with
  | case1 fuel read cs after hskip =>
    obtain ⟨after', hskip', hafter⟩ := (hskip ▸ hF.skip hb).cons
    obtain ⟨n, rfl, heq⟩ := Option.map_eq_some_iff.mp h
    cases heq
    refine ⟨after', ?_, hafter⟩
    unfold readBracedHex?
    simp [hskip']
  | case2 read cs fuel c after hc hskip d hd ih =>
    obtain ⟨after', hskip', hafter⟩ := (hskip ▸ hF.skip hb).cons
    obtain ⟨fuel', rfl⟩ := Nat.exists_eq_add_of_le' (Nat.one_le_of_lt hfuel)
    obtain ⟨rest', hread, hrest⟩ := ih (Nat.le_of_succ_le_succ hfuel) hafter h
    refine ⟨rest', ?_, hrest⟩
    unfold readBracedHex?
    simp [hskip', hd, hread]
  | case3 => cases h
  | case4 => cases h

/-- A literal that is given by its code. -/
theorem readHexLiteral?_followed (hb : blanks = true → ignoring) {digits : Nat} {l : Literal}
    (hF : Followed whole ignoring cs cs') (h : readHexLiteral? blanks digits cs = some (l, rest)) :
    ∃ rest', readHexLiteral? blanks digits cs' = some (l, rest') ∧
      Followed whole ignoring rest rest' := by
  have hskip := hF.skip hb
  unfold readHexLiteral? at h ⊢
  split at h
  case h_1 after heq =>
    -- digits in braces
    obtain ⟨after', heq', hafter⟩ := (heq ▸ hskip).cons
    obtain ⟨⟨n, left⟩, hread, h⟩ := Option.bind_eq_some_iff.mp h
    obtain ⟨c, hc, h⟩ := Option.bind_eq_some_iff.mp h
    cases h
    have hfuel : after.length + 1 ≤ after'.length + 1 := Nat.succ_le_succ hafter.length_le
    obtain ⟨left', hread', hleft⟩ := readBracedHex?_followed hb hfuel hafter hread
    exact ⟨left', by simp [heq', hread', hc], hleft⟩
  case h_2 hbrace =>
    obtain ⟨⟨n, left⟩, hread, h⟩ := Option.bind_eq_some_iff.mp h
    obtain ⟨c, hc, h⟩ := Option.bind_eq_some_iff.mp h
    cases h
    obtain ⟨left', hread', hleft⟩ := readHexDigits?_followed hb hskip hread
    refine ⟨left', ?_, hleft⟩
    split
    case h_1 after' heq' => exact absurd heq' (hskip.ne_cons (by decide) hbrace after')
    case h_2 => simp [hread', hc]

/-- A text in braces. -/
theorem readBraced?_followed (hb : blanks = true → ignoring) {fuel fuel' : Nat}
    (hfuel : fuel ≤ fuel') {read : List Char} {text : String} (hF : Followed whole ignoring cs cs')
    (h : readBraced? blanks fuel read cs = some (text, rest)) :
    ∃ rest', readBraced? blanks fuel' read cs' = some (text, rest') ∧
      Followed whole ignoring rest rest' := by
  fun_induction readBraced? blanks fuel read cs generalizing fuel' cs' with
  | case1 fuel read cs after hskip =>
    obtain ⟨after', hskip', hafter⟩ := (hskip ▸ hF.skip hb).cons
    cases h
    refine ⟨after', ?_, hafter⟩
    unfold readBraced?
    simp [hskip']
  | case2 read cs fuel c after hc hskip ih =>
    obtain ⟨after', hskip', hafter⟩ := (hskip ▸ hF.skip hb).cons
    obtain ⟨fuel', rfl⟩ := Nat.exists_eq_add_of_le' (Nat.one_le_of_lt hfuel)
    obtain ⟨rest', hread, hrest⟩ := ih (Nat.le_of_succ_le_succ hfuel) hafter h
    refine ⟨rest', ?_, hrest⟩
    unfold readBraced?
    simp [hskip', hread]
  | case3 => cases h

/-- The name of a Unicode property. -/
theorem readProperty?_followed (hb : blanks = true → ignoring) {negated : Bool} {q : PropertyClass}
    (hF : Followed whole ignoring cs cs') (h : readProperty? blanks negated cs = some (q, rest)) :
    ∃ rest', readProperty? blanks negated cs' = some (q, rest') ∧
      Followed whole ignoring rest rest' := by
  have hskip := hF.skip hb
  unfold readProperty? at h ⊢
  split at h
  case h_1 after heq =>
    obtain ⟨after', heq', hafter⟩ := (heq ▸ hskip).cons
    obtain ⟨⟨text, left⟩, hread, h⟩ := Option.bind_eq_some_iff.mp h
    cases h
    have hfuel : after.length + 1 ≤ after'.length + 1 := Nat.succ_le_succ hafter.length_le
    obtain ⟨left', hread', hleft⟩ := readBraced?_followed hb hfuel hafter hread
    exact ⟨left', by simp [heq', hread'], hleft⟩
  case h_2 => cases h
  case h_3 c after hbrace hbackslash heq =>
    obtain ⟨after', heq', hafter⟩ := (heq ▸ hskip).cons
    cases h
    exact ⟨skip blanks after', by simp [heq'], hafter.skip hb⟩
  case h_4 => cases h

/-- The name of a word edge in braces. -/
theorem readWordEdge?_followed (hb : blanks = true → ignoring) {a : Assertion}
    (hF : Followed whole ignoring cs cs') (h : readWordEdge? blanks cs = some (a, rest)) :
    ∃ rest', readWordEdge? blanks cs' = some (a, rest') ∧ Followed whole ignoring rest rest' := by
  unfold readWordEdge? at h ⊢
  split at h
  case h_1 inner =>
    obtain ⟨inner', rfl, hinner⟩ := hF.cons
    have hskip := hinner.skip hb
    split at h
    case h_1 => cases h
    case h_2 c after heq =>
      obtain ⟨after', heq', hafter⟩ := (heq ▸ hskip).cons
      simp only [heq'] at h ⊢
      split_ifs at h ⊢ with hname
      · have hfuel : inner.length + 1 ≤ inner'.length + 1 := Nat.succ_le_succ hinner.length_le
        cases hread : readBraced? blanks (inner.length + 1) [] inner with
        | none => simp [hread] at h
        | some read =>
          obtain ⟨text, left⟩ := read
          obtain ⟨left', hread', hleft⟩ := readBraced?_followed hb hfuel hinner hread
          rw [hread] at h
          rw [hread']
          split at h <;> cases h <;> rename_i heq <;> cases heq <;> exact ⟨left', rfl, hleft⟩
      · cases h
        exact ⟨_, rfl, hF⟩
  case h_2 hbrace =>
    cases h
    refine ⟨cs', ?_, hF⟩
    split
    case h_1 inner' => exact absurd rfl (hF.ne_cons (by decide) hbrace inner')
    case h_2 => rfl

/-- Whatever comes after a backslash. -/
theorem readEscape?_followed (hb : blanks = true → ignoring) {t : Tree}
    (hF : Followed whole ignoring cs cs') (h : readEscape? blanks cs = some (t, rest)) :
    ∃ rest', readEscape? blanks cs' = some (t, rest') ∧ Followed whole ignoring rest rest' := by
  cases cs with
  | nil => cases h
  | cons c after =>
    obtain ⟨after', rfl, hafter⟩ := hF.cons
    simp only [readEscape?] at h ⊢
    split at h
    case h_1 => exact map_followed (fun _ _ => readHexLiteral?_followed hb hafter) h
    case h_2 => exact map_followed (fun _ _ => readHexLiteral?_followed hb hafter) h
    case h_3 => exact map_followed (fun _ _ => readHexLiteral?_followed hb hafter) h
    case h_4 => exact map_followed (fun _ _ => readProperty?_followed hb hafter) h
    case h_5 => exact map_followed (fun _ _ => readProperty?_followed hb hafter) h
    case h_20 => exact map_followed (fun _ _ => readWordEdge?_followed hb hafter) h
    case h_24 =>
      split_ifs at h ⊢
      cases h
      exact ⟨after', rfl, hafter⟩
    all_goals
      cases h
      exact ⟨after', rfl, hafter⟩

/-! ## Brackets -/

/-- A run that ends within a text is not made longer by more text behind it. -/
theorem takeWhile_append_of_dropWhile {p : Char → Bool} (hne : cs.dropWhile p ≠ [])
    (ds : List Char) : (cs ++ ds).takeWhile p = cs.takeWhile p := by
  have hlength : (cs.takeWhile p).length ≠ cs.length := fun heq => hne <| by
    have hboth := congrArg List.length (List.takeWhile_append_dropWhile (p := p) (l := cs))
    rw [List.length_append, heq] at hboth
    exact List.length_eq_zero_iff.mp (by omega)
  rw [List.takeWhile_append, if_neg hlength]

/-- A text with a parenthesis after it goes on after a run of other characters if it did without. -/
theorem dropWhile_append_parenthesis {p : Char → Bool} (hp : p ')' = true) (cs : List Char) :
    (cs ++ [')']).dropWhile p = if (cs.dropWhile p).isEmpty then [] else cs.dropWhile p ++ [')'] := by
  rw [List.dropWhile_append, List.dropWhile_cons_of_pos hp, List.dropWhile_nil]

/-- The name of an ASCII class ends at its colon, whatever stands behind the text. -/
theorem readAsciiName?_append (negated : Bool) (cs : List Char) :
    readAsciiName? negated (cs ++ [')']) =
      (readAsciiName? negated cs).map fun (t, rest) => (t, rest ++ [')']) := by
  unfold readAsciiName?
  rw [dropWhile_append_parenthesis (by decide)]
  cases hdrop : cs.dropWhile (· != ':') with
  | nil => rfl
  | cons c after =>
    have hne : cs.dropWhile (· != ':') ≠ [] := hdrop ▸ List.cons_ne_nil c after
    rw [takeWhile_append_of_dropWhile hne]
    by_cases hcolon : c = ':'
    · subst hcolon
      cases after with
      | nil => rfl
      | cons d rest =>
        by_cases hclose : d = ']'
        · subst hclose
          simp only [List.isEmpty_cons, Bool.false_eq_true, if_false, List.cons_append]
          split_ifs <;> rfl
        · simp [hclose]
    · simp [hcolon]

theorem readAsciiClass?_append (cs : List Char) :
    readAsciiClass? (cs ++ [')']) =
      (readAsciiClass? cs).map fun (t, rest) => (t, rest ++ [')']) := by
  fun_cases readAsciiClass? cs with
  | case1 rest => exact readAsciiName?_append true rest
  | case2 rest hcaret =>
    cases rest with
    | nil => rfl
    | cons c rest =>
      rw [← readAsciiName?_append, List.cons_append, List.cons_append, readAsciiClass?]
      rintro ds heq
      exact hcaret rest (by rw [(List.cons.inj heq).1])
  | case3 cs hcaret hcolon =>
    cases cs with
    | nil => rfl
    | cons c rest =>
      have hne : c ≠ ':' := fun heq => hcolon rest (by rw [heq])
      simp [readAsciiClass?, hne]

/-- Reading an ASCII class leaves an end of the text. -/
theorem readAsciiClass?_suffix {t : ClassTree} (h : readAsciiClass? cs = some (t, rest)) :
    rest <:+ cs := by
  have hname : ∀ {negated : Bool} {cs : List Char},
      readAsciiName? negated cs = some (t, rest) → rest <:+ cs := by
    intro negated cs h
    unfold readAsciiName? at h
    split at h
    case h_1 left heq =>
      dsimp only at h
      split_ifs at h
      cases h
      refine List.IsSuffix.trans ?_ (List.dropWhile_suffix (· != ':'))
      exact ⟨[':', ']'], heq.symm⟩
    case h_2 => cases h
  unfold readAsciiClass? at h
  split at h
  case h_1 after => exact (hname h).trans ⟨[':', '^'], rfl⟩
  case h_2 after => exact (hname h).trans ⟨[':'], rfl⟩
  case h_3 => cases h

/-- An ASCII class within brackets. -/
theorem readAsciiClass?_followed {t : ClassTree} (hF : Followed whole ignoring cs cs')
    (h : readAsciiClass? cs = some (t, rest)) :
    ∃ rest', readAsciiClass? cs' = some (t, rest') ∧ Followed whole ignoring rest rest' := by
  obtain ⟨hsuffix, rfl | ⟨rfl, -⟩⟩ := hF
  · refine ⟨rest ++ [')'], ?_, (readAsciiClass?_suffix h).trans hsuffix, Or.inl rfl⟩
    rw [readAsciiClass?_append, h, Option.map_some]
  · cases h

/-- What is no ASCII class does not become one by the parenthesis. -/
theorem readAsciiClass?_eq_none (hF : Followed whole ignoring cs cs')
    (h : readAsciiClass? cs = none) : readAsciiClass? cs' = none := by
  obtain ⟨-, rfl | ⟨rfl, rfl, -⟩⟩ := hF
  · rw [readAsciiClass?_append, h, Option.map_none]
  · rfl

/-- One character of a class, or an escape. -/
theorem readClassItem?_followed (hb : blanks = true → ignoring) {t : Tree}
    (hF : Followed whole ignoring cs cs') (h : readClassItem? blanks cs = some (t, rest)) :
    ∃ rest', readClassItem? blanks cs' = some (t, rest') ∧ Followed whole ignoring rest rest' := by
  cases cs with
  | nil => cases h
  | cons c after =>
    obtain ⟨after', rfl, hafter⟩ := hF.cons
    by_cases hbackslash : c = '\\'
    · subst hbackslash
      exact readEscape?_followed hb hafter h
    · simp only [readClassItem?] at h ⊢
      cases h
      exact ⟨after', rfl, hafter⟩

/-- A range of a class, or one of its items. -/
theorem readClassRange?_followed (hb : blanks = true → ignoring) {t : ClassTree}
    (hF : Followed whole ignoring cs cs') (h : readClassRange? blanks cs = some (t, rest)) :
    ∃ rest', readClassRange? blanks cs' = some (t, rest') ∧ Followed whole ignoring rest rest' := by
  obtain ⟨⟨first, left⟩, hfirst, h⟩ := Option.bind_eq_some_iff.mp h
  obtain ⟨left', hfirst', hleft⟩ := readClassItem?_followed hb hF hfirst
  have hskip := hleft.skip hb
  have hsingle : ∀ {left left' : List Char}, Followed whole ignoring left left' →
      (classOfItem? first).map (fun t => (t, left)) = some (t, rest) →
      ∃ rest', (classOfItem? first).map (fun t => (t, left')) = some (t, rest') ∧
        Followed whole ignoring rest rest' := by
    intro left left' hleft h
    obtain ⟨u, hu, heq⟩ := Option.map_eq_some_iff.mp h
    cases heq
    exact ⟨left', by rw [hu, Option.map_some], hleft⟩
  unfold readClassRange?
  rw [hfirst']
  simp only [Option.bind_eq_bind, Option.bind_some]
  dsimp only at h
  split at h
  case h_1 => cases h
  case h_2 after hds =>
    -- a hyphen, which may begin the second half of a range
    obtain ⟨after', hds', hafter⟩ := (hds ▸ hskip).cons
    have hskip' := hafter.skip hb
    simp only [hds']
    rw [hds, hds'] at hskip
    split at h
    case h_1 last hes =>
      obtain ⟨last', hes', -⟩ := (hes ▸ hskip').cons
      simp only [hes']
      exact hsingle hskip (by rwa [hds] at h)
    case h_2 last hes =>
      obtain ⟨last', hes', -⟩ := (hes ▸ hskip').cons
      simp only [hes']
      exact hsingle hskip (by rwa [hds] at h)
    case h_3 => cases h
    case h_4 hclose hhyphen hnil =>
      obtain ⟨⟨second, left⟩, hsecond, h⟩ := Option.bind_eq_some_iff.mp h
      obtain ⟨left', hsecond', hleft⟩ := readClassItem?_followed hb hskip' hsecond
      split
      case h_1 last' heq => exact absurd heq (hskip'.ne_cons (by decide) hclose last')
      case h_2 last' heq => exact absurd heq (hskip'.ne_cons (by decide) hhyphen last')
      case h_3 heq => exact absurd heq (hskip'.ne_nil hnil)
      case h_4 =>
        rw [hsecond', Option.bind_some]
        dsimp only at h ⊢
        split at h
        case h_1 low high =>
          split_ifs at h ⊢ with hle
          cases h
          exact ⟨left', rfl, hleft⟩
        case h_2 => cases h
  case h_3 hnil hhyphen =>
    split
    case h_1 heq => exact absurd heq (hskip.ne_nil hnil)
    case h_2 after' heq => exact absurd heq (hskip.ne_cons (by decide) hhyphen after')
    case h_3 => exact hsingle hskip h

/-- Enough fuel reads all the hyphens. -/
theorem readHyphens_followed (hb : blanks = true → ignoring) {fuel fuel' : Nat}
    (hfuel : fuel ≤ fuel') (hcs : cs.length ≤ fuel) (hF : Followed whole ignoring cs cs')
    {read items : List ClassTree} (h : readHyphens blanks read fuel cs = (items, rest)) :
    ∃ rest', readHyphens blanks read fuel' cs' = (items, rest') ∧
      Followed whole ignoring rest rest' := by
  fun_induction readHyphens blanks read fuel cs generalizing fuel' cs' with
  | case1 read fuel after ih =>
    obtain ⟨after', rfl, hafter⟩ := hF.cons
    obtain ⟨fuel', rfl⟩ := Nat.exists_eq_add_of_le' (Nat.one_le_of_lt hfuel)
    have hlength : (skip blanks after).length ≤ fuel :=
      (skip_suffix blanks after).length_le.trans (Nat.le_of_succ_le_succ hcs)
    exact ih (Nat.le_of_succ_le_succ hfuel) hlength (hafter.skip hb) h
  | case2 read fuel cs hother =>
    cases h
    refine ⟨cs', ?_, hF⟩
    have hhyphen : ∀ after, rest = '-' :: after → False := by
      rintro after rfl
      obtain ⟨fuel, rfl⟩ := Nat.exists_eq_add_of_le' (Nat.one_le_of_lt hcs)
      exact hother fuel after rfl rfl
    unfold readHyphens
    split
    case h_1 fuel' after' => exact absurd rfl (hF.ne_cons (by decide) hhyphen after')
    case h_2 => rfl

/-- The hyphens and the bracket that may stand at the front of a class. -/
theorem readLeadingItems?_followed (hb : blanks = true → ignoring) {items : List ClassTree}
    (hF : Followed whole ignoring cs cs') (h : readLeadingItems? blanks cs = some (items, rest)) :
    ∃ rest', readLeadingItems? blanks cs' = some (items, rest') ∧
      Followed whole ignoring rest rest' := by
  unfold readLeadingItems? at h ⊢
  obtain ⟨left', hread', hleft⟩ := readHyphens_followed hb hF.length_le le_rfl hF
    (rfl : readHyphens blanks [] cs.length cs = (_, _))
  split at h
  case h_1 => cases h
  case h_2 after heq =>
    rw [heq] at hread' hleft
    obtain ⟨after', rfl, hafter⟩ := hleft.cons
    rw [hread']
    dsimp only at h ⊢
    split_ifs at h with hempty
    cases h
    have hskip := hafter.skip hb
    have hempty' : ¬(skip blanks after').isEmpty := fun hempty' =>
      hskip.ne_nil (fun heq => hempty (by rw [heq]; rfl)) (List.isEmpty_iff.mp hempty')
    exact ⟨skip blanks after', if_neg hempty', hskip⟩
  case h_3 items left hnil hclose heq =>
    cases h
    rw [heq] at hread' hleft
    rw [hread']
    refine ⟨left', ?_, hleft⟩
    split
    case h_1 heq' => exact absurd (Prod.mk.inj heq').2 (hleft.ne_nil hnil)
    case h_2 after' heq' =>
      obtain ⟨hitems, hopen⟩ := Prod.mk.inj heq'
      exact absurd hopen (hleft.ne_cons (by decide) (fun after => hclose after hitems) after')
    case h_3 heq' =>
      cases heq'
      rfl

/-- The front of a class, with the sign that negates it. -/
theorem readBracketStart?_followed (hb : blanks = true → ignoring) {negated : Bool}
    {items : List ClassTree} (hF : Followed whole ignoring cs cs')
    (h : readBracketStart? blanks cs = some (negated, items, rest)) :
    ∃ rest', readBracketStart? blanks cs' = some (negated, items, rest') ∧
      Followed whole ignoring rest rest' := by
  have hskip := hF.skip hb
  unfold readBracketStart? at h ⊢
  split at h
  case h_1 after heq =>
    obtain ⟨after', heq', hafter⟩ := (heq ▸ hskip).cons
    obtain ⟨⟨items, left⟩, hread, h⟩ := Option.map_eq_some_iff.mp h
    cases h
    obtain ⟨left', hread', hleft⟩ := readLeadingItems?_followed hb (hafter.skip hb) hread
    exact ⟨left', by simp [heq', hread'], hleft⟩
  case h_2 hcaret =>
    obtain ⟨⟨items, left⟩, hread, h⟩ := Option.map_eq_some_iff.mp h
    cases h
    obtain ⟨left', hread', hleft⟩ := readLeadingItems?_followed hb hskip hread
    refine ⟨left', ?_, hleft⟩
    split
    case h_1 after' heq' => exact absurd heq' (hskip.ne_cons (by decide) hcaret after')
    case h_2 => rw [hread', Option.map_some]

/-- The items of a class up to its closing bracket, nested classes and operations between them
included: by induction on the fuel. -/
theorem readBracketItems?_followed (hb : blanks = true → ignoring) {fuel fuel' : Nat}
    (hfuel : fuel ≤ fuel') {pending : Option (ClassOperation × ClassTree)} {items : List ClassTree}
    {t : ClassTree} (hF : Followed whole ignoring cs cs')
    (h : readBracketItems? blanks fuel pending items cs = some (t, rest)) :
    ∃ rest', readBracketItems? blanks fuel' pending items cs' = some (t, rest') ∧
      Followed whole ignoring rest rest' := by
  fun_induction readBracketItems? blanks fuel pending items cs generalizing fuel' cs' t rest with
  | case3 pending items cs fuel after hskip =>
    obtain ⟨after', hskip', hafter⟩ := (hskip ▸ hF.skip hb).cons
    obtain ⟨fuel', rfl⟩ := Nat.exists_eq_add_of_le' (Nat.one_le_of_lt hfuel)
    cases h
    exact ⟨after', by simp [readBracketItems?, hskip'], hafter⟩
  | case4 pending items cs fuel after hskip u left hclass ih =>
    -- an ASCII class
    obtain ⟨after', hskip', hafter⟩ := (hskip ▸ hF.skip hb).cons
    obtain ⟨fuel', rfl⟩ := Nat.exists_eq_add_of_le' (Nat.one_le_of_lt hfuel)
    obtain ⟨left', hclass', hleft⟩ := readAsciiClass?_followed hafter hclass
    obtain ⟨rest', hread, hrest⟩ := ih (Nat.le_of_succ_le_succ hfuel) hleft h
    exact ⟨rest', by simp [readBracketItems?, hskip', hclass', hread], hrest⟩
  | case7 pending items cs fuel after hskip hclass negated start inner hstart u left hinner ihinner ih =>
    -- a bracket inside the bracket
    obtain ⟨after', hskip', hafter⟩ := (hskip ▸ hF.skip hb).cons
    obtain ⟨fuel', rfl⟩ := Nat.exists_eq_add_of_le' (Nat.one_le_of_lt hfuel)
    have hclass' := readAsciiClass?_eq_none hafter hclass
    obtain ⟨inner', hstart', hinner'⟩ := readBracketStart?_followed hb hafter hstart
    have hfuel := Nat.le_of_succ_le_succ hfuel
    obtain ⟨left', hread, hleft⟩ := ihinner hfuel hinner' hinner
    obtain ⟨rest', hread', hrest⟩ := ih hfuel hleft h
    exact ⟨rest', by simp [readBracketItems?, hskip', hclass', hstart', hread, hread'], hrest⟩
  | case8 pending items cs fuel after hskip ih | case9 pending items cs fuel after hskip ih
  | case10 pending items cs fuel after hskip ih =>
    -- an operation
    obtain ⟨next', hskip', hnext⟩ := (hskip ▸ hF.skip hb).cons
    obtain ⟨after', rfl, hafter⟩ := hnext.cons
    obtain ⟨fuel', rfl⟩ := Nat.exists_eq_add_of_le' (Nat.one_le_of_lt hfuel)
    obtain ⟨rest', hread, hrest⟩ := ih (Nat.le_of_succ_le_succ hfuel) hafter h
    exact ⟨rest', by simp [readBracketItems?, hskip', hread], hrest⟩
  | case12 pending items cs fuel u left hnil hclose hopen hand hminus htilde hrange ih =>
    have hskip := hF.skip hb
    obtain ⟨fuel', rfl⟩ := Nat.exists_eq_add_of_le' (Nat.one_le_of_lt hfuel)
    obtain ⟨left', hrange', hleft⟩ := readClassRange?_followed hb hskip hrange
    obtain ⟨rest', hread, hrest⟩ := ih (Nat.le_of_succ_le_succ hfuel) hleft h
    refine ⟨rest', ?_, hrest⟩
    unfold readBracketItems?
    split
    case h_1 heq => exact absurd heq (hskip.ne_nil hnil)
    case h_2 after' heq => exact absurd heq (hskip.ne_cons (by decide) hclose after')
    case h_3 after' heq => exact absurd heq (hskip.ne_cons (by decide) hopen after')
    case h_4 after' heq =>
      exact absurd heq (hskip.ne_cons_cons (by decide) (by decide) hand after')
    case h_5 after' heq =>
      exact absurd heq (hskip.ne_cons_cons (by decide) (by decide) hminus after')
    case h_6 after' heq =>
      exact absurd heq (hskip.ne_cons_cons (by decide) (by decide) htilde after')
    case h_7 => simp [hrange', hread]
  | case1 | case2 | case5 | case6 | case11 => cases h

/-- A whole class. -/
theorem readBracket?_followed (hb : blanks = true → ignoring) {t : Tree}
    (hF : Followed whole ignoring cs cs') (h : readBracket? blanks cs = some (t, rest)) :
    ∃ rest', readBracket? blanks cs' = some (t, rest') ∧ Followed whole ignoring rest rest' := by
  obtain ⟨⟨negated, start, left⟩, hstart, h⟩ := Option.bind_eq_some_iff.mp h
  obtain ⟨⟨u, last⟩, hitems, h⟩ := Option.bind_eq_some_iff.mp h
  cases h
  obtain ⟨left', hstart', hleft⟩ := readBracketStart?_followed hb hF hstart
  have hfuel : cs.length + 1 ≤ cs'.length + 1 := Nat.succ_le_succ hF.length_le
  obtain ⟨rest', hitems', hrest⟩ := readBracketItems?_followed hb hfuel hleft hitems
  exact ⟨rest', by simp [readBracket?, hstart', hitems'], hrest⟩

/-! ## Groups and repetitions -/

/-- The flags of a group, up to the colon or the parenthesis that ends them. This parenthesis is one
of the text itself. -/
theorem readFlags?_followed {negative dangling closed : Bool} {read changes : FlagChanges}
    (hF : Followed whole ignoring cs cs')
    (h : readFlags? negative dangling read cs = some (changes, closed, rest)) :
    ∃ rest', readFlags? negative dangling read cs' = some (changes, closed, rest') ∧
      Followed whole ignoring rest rest' := by
  fun_induction readFlags? negative dangling read cs generalizing cs' with
  | case3 negative dangling read c after hend hdangling =>
    obtain ⟨after', rfl, hafter⟩ := hF.cons
    cases h
    exact ⟨after', by simp [readFlags?, hend, hdangling], hafter⟩
  | case5 negative dangling read after hnegative hend ih =>
    obtain ⟨after', rfl, hafter⟩ := hF.cons
    obtain ⟨rest', hread, hrest⟩ := ih hafter h
    exact ⟨rest', by simp [readFlags?, hnegative, hread], hrest⟩
  | case8 negative dangling read c after hend hminus flag hflag hnew ih =>
    obtain ⟨after', rfl, hafter⟩ := hF.cons
    obtain ⟨rest', hread, hrest⟩ := ih hafter h
    refine ⟨rest', ?_, hrest⟩
    rw [readFlags?, if_neg hend, if_neg hminus, hflag]
    exact (if_neg hnew).trans hread
  | case1 | case2 | case4 | case6 | case7 => cases h

/-- The name of a group, up to its closing bracket. -/
theorem readGroupName?_followed {name : String} (hF : Followed whole ignoring cs cs')
    (h : readGroupName? cs = some (name, rest)) :
    ∃ rest', readGroupName? cs' = some (name, rest') ∧ Followed whole ignoring rest rest' := by
  obtain ⟨hsuffix, rfl | ⟨rfl, -⟩⟩ := hF
  · unfold readGroupName? at h ⊢
    dsimp only at h ⊢
    split at h
    case h_1 left first others hdrop htake =>
      split_ifs at h with hname
      cases h
      have hne : cs.dropWhile (· != '>') ≠ [] := hdrop ▸ List.cons_ne_nil _ _
      rw [dropWhile_append_parenthesis (by decide), takeWhile_append_of_dropWhile hne, hdrop, htake]
      refine ⟨rest ++ [')'], by simp [hname], ?_, Or.inl rfl⟩
      exact ((List.suffix_cons '>' rest).trans (hdrop ▸ List.dropWhile_suffix _)).trans hsuffix
    case h_2 => cases h
  · cases h

/-- The start of a group with a name. -/
theorem namedGroup?_followed {count count' : GroupCount} {start : GroupStart}
    (hF : Followed whole ignoring cs cs') (h : namedGroup? count cs = some (start, count', rest)) :
    ∃ rest', namedGroup? count cs' = some (start, count', rest') ∧
      Followed whole ignoring rest rest' := by
  obtain ⟨⟨name, left⟩, hname, h⟩ := Option.bind_eq_some_iff.mp h
  obtain ⟨u, hguard, h⟩ := Option.bind_eq_some_iff.mp h
  cases h
  obtain ⟨rest', hname', hrest⟩ := readGroupName?_followed hF hname
  refine ⟨rest', ?_, hrest⟩
  unfold namedGroup?
  rw [hname']
  exact Option.bind_eq_some_iff.mpr ⟨_, rfl, Option.bind_eq_some_iff.mpr ⟨u, hguard, rfl⟩⟩

/-- The start of a group, of whatever kind. -/
theorem readGroupStart?_followed (hb : blanks = true → ignoring) {count count' : GroupCount}
    {start : GroupStart} (hF : Followed whole ignoring cs cs')
    (h : readGroupStart? blanks count cs = some (start, count', rest)) :
    ∃ rest', readGroupStart? blanks count cs' = some (start, count', rest') ∧
      Followed whole ignoring rest rest' := by
  have hskip := hF.skip hb
  unfold readGroupStart? at h ⊢
  split at h
  case h_1 => cases h
  case h_2 => cases h
  case h_3 => cases h
  case h_4 => cases h
  case h_5 after heq =>
    -- a name after `?P<`
    obtain ⟨mark', heq', hmark⟩ := (heq ▸ hskip).cons
    obtain ⟨bracket', rfl, hbracket⟩ := hmark.cons
    obtain ⟨after', rfl, hafter⟩ := hbracket.cons
    obtain ⟨rest', hname, hrest⟩ := namedGroup?_followed hafter h
    exact ⟨rest', by simp [heq', hname], hrest⟩
  case h_6 after hequal hbang heq =>
    -- a name after `?<`
    obtain ⟨bracket', heq', hbracket⟩ := (heq ▸ hskip).cons
    obtain ⟨after', rfl, hafter⟩ := hbracket.cons
    obtain ⟨rest', hname, hrest⟩ := namedGroup?_followed hafter h
    refine ⟨rest', ?_, hrest⟩
    have hequal' := hafter.ne_cons (by decide) hequal
    have hbang' := hafter.ne_cons (by decide) hbang
    simp [heq', hname]
  case h_7 after hequal hbang hbehindEqual hbehindBang hmarked hname heq =>
    -- flags
    obtain ⟨after', heq', hafter⟩ := (heq ▸ hskip).cons
    have hequal' := hafter.ne_cons (by decide) hequal
    have hbang' := hafter.ne_cons (by decide) hbang
    have hbehindEqual' := hafter.ne_cons_cons (by decide) (by decide) hbehindEqual
    have hbehindBang' := hafter.ne_cons_cons (by decide) (by decide) hbehindBang
    have hmarked' := hafter.ne_cons_cons (by decide) (by decide) hmarked
    have hname' := hafter.ne_cons (by decide) hname
    split at h
    case h_1 => cases h
    case h_2 changes left hflags =>
      obtain ⟨left', hflags', hleft⟩ := readFlags?_followed hafter hflags
      split_ifs at h with hempty
      cases h
      exact ⟨left', by simp [heq', hflags', hempty], hleft⟩
    case h_3 changes left hflags =>
      obtain ⟨left', hflags', hleft⟩ := readFlags?_followed hafter hflags
      cases h
      exact ⟨left', by simp [heq', hflags'], hleft⟩
  case h_8 hmark =>
    have hmark' := hskip.ne_cons (by decide) hmark
    cases h
    refine ⟨skip blanks cs', ?_, hskip⟩
    split
    case h_8 => rfl
    all_goals exact absurd ‹_› (hmark' _)

/-- A count of repetitions. -/
theorem readCount?_followed {n : Nat} (hF : Followed whole ignoring cs cs')
    (h : readCount? cs = some (n, rest)) :
    ∃ rest', readCount? cs' = some (n, rest') ∧ Followed whole ignoring rest rest' := by
  have hblank : Unicode.isBlank ')' = false := by decide
  have hdigit : Char.isDigit ')' = false := by decide
  have hdigits := hF.dropWhile hblank
  unfold readCount? Decimal.spanDigits at h ⊢
  dsimp only at h ⊢
  rw [hdigits.takeWhile hdigit]
  split_ifs at h ⊢ with hcount
  cases h
  exact ⟨_, rfl, (hdigits.dropWhile hdigit).dropWhile hblank⟩

/-- The bounds of a repetition in braces. -/
theorem readBounds?_followed (hb : blanks = true → ignoring) {min : Nat} {max : Option Nat}
    (hF : Followed whole ignoring cs cs') (h : readBounds? blanks cs = some (min, max, rest)) :
    ∃ rest', readBounds? blanks cs' = some (min, max, rest') ∧
      Followed whole ignoring rest rest' := by
  obtain ⟨⟨n, left⟩, hmin, h⟩ := Option.bind_eq_some_iff.mp h
  obtain ⟨left', hmin', hleft⟩ := readCount?_followed (hF.skip hb) hmin
  unfold readBounds?
  rw [hmin']
  simp only [Option.bind_eq_bind, Option.bind_some]
  dsimp only at h
  split at h
  case h_1 after =>
    obtain ⟨after', rfl, hafter⟩ := hleft.cons
    have hskip := hafter.skip hb
    split at h
    case h_1 last heq =>
      obtain ⟨last', heq', hlast⟩ := (heq ▸ hskip).cons
      cases h
      exact ⟨last', by simp [heq'], hlast⟩
    case h_2 hclose =>
      obtain ⟨⟨m, last⟩, hmax, h⟩ := Option.bind_eq_some_iff.mp h
      obtain ⟨last', hmax', hlast⟩ := readCount?_followed hskip hmax
      dsimp only at h
      split at h
      case h_1 =>
        obtain ⟨end', rfl, hend⟩ := hlast.cons
        split_ifs at h with hle
        cases h
        have hclose' := hskip.ne_cons (by decide) hclose
        exact ⟨end', by simp [hmax', hle], hend⟩
      case h_2 => cases h
  case h_2 after =>
    obtain ⟨after', rfl, hafter⟩ := hleft.cons
    cases h
    exact ⟨after', rfl, hafter⟩
  case h_3 => cases h

/-- The question mark that makes a repetition lazy. -/
theorem readLaziness_followed {greedy : Bool} (hF : Followed whole ignoring cs cs')
    (h : readLaziness cs = (greedy, rest)) :
    ∃ rest', readLaziness cs' = (greedy, rest') ∧ Followed whole ignoring rest rest' := by
  unfold readLaziness at h ⊢
  split at h
  case h_1 after =>
    obtain ⟨after', rfl, hafter⟩ := hF.cons
    cases h
    exact ⟨after', rfl, hafter⟩
  case h_2 hlazy =>
    cases h
    refine ⟨cs', ?_, hF⟩
    split
    case h_1 after' => exact absurd rfl (hF.ne_cons (by decide) hlazy after')
    case h_2 => rfl

/-- A repetition, by its sign or by bounds in braces. -/
theorem readRepetition?_followed (hb : blanks = true → ignoring) {c : Char} {min : Nat}
    {max : Option Nat} {greedy : Bool} (hF : Followed whole ignoring cs cs')
    (h : readRepetition? blanks c cs = some (min, max, greedy, rest)) :
    ∃ rest', readRepetition? blanks c cs' = some (min, max, greedy, rest') ∧
      Followed whole ignoring rest rest' := by
  obtain ⟨left', hlazy, hleft⟩ := readLaziness_followed hF (rfl : readLaziness cs = (_, _))
  unfold readRepetition? at h ⊢
  split at h
  case h_1 =>
    cases h
    exact ⟨left', by rw [hlazy], hleft⟩
  case h_2 =>
    cases h
    exact ⟨left', by rw [hlazy], hleft⟩
  case h_3 =>
    cases h
    exact ⟨left', by rw [hlazy], hleft⟩
  case h_4 =>
    split at h
    case h_1 least most left hbounds =>
      obtain ⟨left', hbounds', hleft⟩ := readBounds?_followed hb hF hbounds
      obtain ⟨last', hlazy, hlast⟩ :=
        readLaziness_followed (hleft.skip hb) (rfl : readLaziness (skip blanks left) = (_, _))
      cases h
      exact ⟨last', by simp [hbounds', hlazy], hlast⟩
    case h_2 => cases h
  case h_5 => cases h

end Readers

end ClusterMonitor.Regex

import ClusterMonitor.Proofs.Regex.Followed
import ClusterMonitor.Regex.Expression

/-!
# Patterns in anchored groups

A pattern is anchored by writing it into a group after `^`. The text so made is read as the anchor
and, in a group, the tree of the pattern, unless a comment swallows the closing parenthesis.

* `Tree.ignoresBlanks` — is there a place where comments can stand?
* `readItems?_followed` — the main loop reads the same with a closing parenthesis after the text.
* `Tree.ofText?_append_eq_none` — the usual case, in which the parenthesis is not swallowed.
* `Tree.ofText?_anchored` and `Expression.ofText?_anchored` — the tree and the expression of an
  anchored pattern.
* `leavesRoom_of_ofText?_anchored` — the conditions of the two are needed as well.
-/

namespace ClusterMonitor.Regex

/-! ## Trees that ignore blanks -/

mutual

/-- Are blanks and comments ignored somewhere in the tree? -/
def Tree.ignoresBlanks : Tree → Bool
  | .flags changes => flagState? changes .ignoreBlanks == some true
  | .group (.plain changes) t =>
    flagState? changes .ignoreBlanks == some true || t.ignoresBlanks
  | .group (.capturing _) t => t.ignoresBlanks
  | .repeated t _ _ _ => t.ignoresBlanks
  | .alternatives ts => Tree.anyIgnoresBlanks ts
  | .sequence ts => Tree.anyIgnoresBlanks ts
  | _ => false

/-- Are they in any of the trees? -/
def Tree.anyIgnoresBlanks : List Tree → Bool
  | [] => false
  | t :: rest => t.ignoresBlanks || Tree.anyIgnoresBlanks rest

end

/-- Some tree in a list ignores blanks if one of them does. -/
theorem Tree.anyIgnoresBlanks_eq (ts : List Tree) :
    Tree.anyIgnoresBlanks ts = ts.any Tree.ignoresBlanks := by
  induction ts with
  | nil => rfl
  | cons t rest ih => rw [Tree.anyIgnoresBlanks, ih, List.any_cons]

/-- A sequence ignores blanks somewhere if one of its parts does. -/
theorem Tree.ignoresBlanks_ofSequence (ts : List Tree) :
    (Tree.ofSequence ts).ignoresBlanks = ts.any Tree.ignoresBlanks := by
  match ts with
  | [] => rfl
  | [t] => simp [Tree.ofSequence]
  | t :: u :: rest => exact Tree.anyIgnoresBlanks_eq (t :: u :: rest)

theorem Tree.ignoresBlanks_ofAlternatives (ts : List Tree) :
    (Tree.ofAlternatives ts).ignoresBlanks = ts.any Tree.ignoresBlanks := by
  match ts with
  | [] => rfl
  | [t] => simp [Tree.ofAlternatives]
  | t :: u :: rest => exact Tree.anyIgnoresBlanks_eq (t :: u :: rest)

theorem ignoresBlanks_treeOfParts (alternatives sequence : List Tree) :
    (treeOfParts alternatives sequence).ignoresBlanks =
      (alternatives.any Tree.ignoresBlanks || sequence.any Tree.ignoresBlanks) := by
  rw [treeOfParts, Tree.ignoresBlanks_ofAlternatives, List.any_reverse, List.any_cons,
    Tree.ignoresBlanks_ofSequence, List.any_reverse, Bool.or_comm]

/-- Where blanks are ignored, they were before, or the flags have changed it. -/
theorem blanks_of_getD {changes : FlagChanges} {blanks : Bool}
    (h : (flagState? changes .ignoreBlanks).getD blanks = true) :
    (flagState? changes .ignoreBlanks == some true) = true ∨ blanks = true := by
  cases hstate : flagState? changes .ignoreBlanks with
  | none => exact Or.inr (by simpa [hstate] using h)
  | some on => exact Or.inl (by simpa [hstate] using h)

/-! ## Reading with a parenthesis to follow -/

section Items

variable {fuel fuel' : Nat} {blanks : Bool} {count count' : GroupCount}
  {alternatives sequence : List Tree} {cs cs' rest : List Char} {t : Tree}

/-- Blanks that are ignored in what has been read are ignored in the tree that comes of it. -/
theorem ignoresBlanks_of_readItems?
    (h : readItems? fuel blanks count alternatives sequence cs = some (t, count', rest))
    (hread : (alternatives.any Tree.ignoresBlanks || sequence.any Tree.ignoresBlanks) = true) :
    t.ignoresBlanks = true := by
  have hcons : ∀ {alternatives sequence : List Tree} (u : Tree),
      (alternatives.any Tree.ignoresBlanks || sequence.any Tree.ignoresBlanks) = true →
      (alternatives.any Tree.ignoresBlanks || (u :: sequence).any Tree.ignoresBlanks) = true := by
    intro alternatives sequence u hread
    rw [List.any_cons, Bool.or_left_comm, hread, Bool.or_true]
  fun_induction readItems? fuel blanks count alternatives sequence cs generalizing t count' rest with
  | case2 | case3 =>
    cases h
    rwa [ignoresBlanks_treeOfParts]
  | case4 blanks count alternatives sequence cs fuel after hskip ih =>
    refine ih h ?_
    rwa [List.any_cons, Tree.ignoresBlanks_ofSequence, List.any_reverse, List.any_nil, Bool.or_false,
      Bool.or_comm]
  | case6 | case7 | case10 | case12 | case17 =>
    -- one more tree is read
    rename_i ih
    exact ih h (hcons _ hread)
  | case15 =>
    -- a repetition ignores blanks where the repeated tree does
    rename_i ih
    refine ih h ?_
    rwa [List.any_cons] at hread ⊢
  | case1 | case5 | case8 | case9 | case11 | case13 | case14 | case16 => cases h

/-- A pattern is read to its end. -/
theorem readItems?_of_ofText? {text : String} {names : List (String × Nat)}
    (h : Tree.ofText? text = some (t, names)) :
    ∃ count, readItems? (text.toList.length + 1) false {} [] [] text.toList = some (t, count, []) ∧
      t.nesting ≤ nestingLimit ∧ count.names = names := by
  unfold Tree.ofText? at h
  dsimp only at h
  split at h
  case h_1 u count hread =>
    split_ifs at h with hlimit
    cases h
    exact ⟨count, hread, hlimit, rfl⟩
  case h_2 => cases h

/-- More fuel reads the same. -/
theorem readItems?_mono (hfuel : fuel ≤ fuel') {result : Tree × GroupCount × List Char}
    (h : readItems? fuel blanks count alternatives sequence cs = some result) :
    readItems? fuel' blanks count alternatives sequence cs = some result := by
  fun_induction readItems? fuel blanks count alternatives sequence cs
    generalizing fuel' result with
  | case2 blanks count alternatives sequence cs fuel hskip =>
    -- the text ends
    obtain ⟨fuel', rfl⟩ := Nat.exists_eq_add_of_le' (Nat.one_le_of_lt hfuel)
    simpa [readItems?, hskip] using h
  | case3 blanks count alternatives sequence cs fuel after hskip =>
    -- a closing parenthesis, which is left where it is
    obtain ⟨fuel', rfl⟩ := Nat.exists_eq_add_of_le' (Nat.one_le_of_lt hfuel)
    simpa [readItems?, hskip] using h
  | case4 blanks count alternatives sequence cs fuel after hskip ih =>
    -- a bar: the alternative under way is complete
    obtain ⟨fuel', rfl⟩ := Nat.exists_eq_add_of_le' (Nat.one_le_of_lt hfuel)
    simp [readItems?, hskip, ih (Nat.le_of_succ_le_succ hfuel) h]
  | case6 blanks count alternatives sequence cs fuel after hskip changes counted left hstart ih =>
    -- switches, which hold from here on
    obtain ⟨fuel', rfl⟩ := Nat.exists_eq_add_of_le' (Nat.one_le_of_lt hfuel)
    simp [readItems?, hskip, hstart, ih (Nat.le_of_succ_le_succ hfuel) h]
  | case7 blanks count alternatives sequence cs fuel after hskip kind counted left hstart inner u
      counted' last hinner ihinner =>
    -- a group, which ends at a parenthesis of its own
    rename_i ih
    obtain ⟨fuel', rfl⟩ := Nat.exists_eq_add_of_le' (Nat.one_le_of_lt hfuel)
    have hfuel := Nat.le_of_succ_le_succ hfuel
    have hinner' := ihinner hfuel hinner
    simp only [inner] at hinner'
    simp only [readItems?, hskip, hstart, hinner', ih hfuel h]
  | case10 blanks count alternatives sequence cs fuel after hskip u left hbracket ih =>
    -- a class in brackets
    obtain ⟨fuel', rfl⟩ := Nat.exists_eq_add_of_le' (Nat.one_le_of_lt hfuel)
    simp [readItems?, hskip, hbracket, ih (Nat.le_of_succ_le_succ hfuel) h]
  | case12 blanks count alternatives sequence cs fuel after hskip u left hescape ih =>
    -- an escape
    obtain ⟨fuel', rfl⟩ := Nat.exists_eq_add_of_le' (Nat.one_le_of_lt hfuel)
    simp [readItems?, hskip, hescape, ih (Nat.le_of_succ_le_succ hfuel) h]
  | case15 blanks count alternatives cs fuel c after hclose hbar hopen hbracket hbackslash hskip hmark u
      earlier hrepeatable min max greedy left hrepetition ih =>
    -- a repetition of the last item
    obtain ⟨fuel', rfl⟩ := Nat.exists_eq_add_of_le' (Nat.one_le_of_lt hfuel)
    simp [readItems?, hskip, hmark, hrepeatable, hrepetition, ih (Nat.le_of_succ_le_succ hfuel) h]
  | case17 blanks count alternatives sequence cs fuel c after hclose hbar hopen hbracket hbackslash hskip
      hmark u =>
    -- a dot, an anchor or a literal
    rename_i ih
    obtain ⟨fuel', rfl⟩ := Nat.exists_eq_add_of_le' (Nat.one_le_of_lt hfuel)
    have hread := ih (Nat.le_of_succ_le_succ hfuel) h
    simp only [u] at hread
    simp [readItems?, hskip, hmark, hread]
  | case1 | case5 | case8 | case9 | case11 | case13 | case14 | case16 => cases h

/-- The items of an expression are read in the same way when a parenthesis follows the text. -/
theorem readItems?_followed {whole : List Char} {ignoring : Prop} (hfuel : fuel ≤ fuel')
    (hb : blanks = true → ignoring) (ht : t.ignoresBlanks = true → ignoring)
    (hF : Followed whole ignoring cs cs')
    (h : readItems? fuel blanks count alternatives sequence cs = some (t, count', rest)) :
    ∃ rest', readItems? fuel' blanks count alternatives sequence cs' = some (t, count', rest') ∧
      Followed whole ignoring rest rest' := by
  fun_induction readItems? fuel blanks count alternatives sequence cs
    generalizing fuel' cs' t count' rest with
  | case2 blanks count alternatives sequence cs fuel hskip =>
    -- the text ends
    have hnil := hskip ▸ hF.skip hb
    obtain ⟨fuel', rfl⟩ := Nat.exists_eq_add_of_le' (Nat.one_le_of_lt hfuel)
    cases h
    refine ⟨skip blanks cs', ?_, hnil⟩
    unfold readItems?
    rcases hnil.nil with heq | heq <;> simp [heq]
  | case3 blanks count alternatives sequence cs fuel after hskip =>
    -- a closing parenthesis, which is left where it is
    obtain ⟨after', hskip', hafter⟩ := (hskip ▸ hF.skip hb).cons
    obtain ⟨fuel', rfl⟩ := Nat.exists_eq_add_of_le' (Nat.one_le_of_lt hfuel)
    cases h
    exact ⟨')' :: after', by simp [readItems?, hskip'], hskip' ▸ hskip ▸ hF.skip hb⟩
  | case4 blanks count alternatives sequence cs fuel after hskip ih =>
    -- a bar: the alternative under way is complete
    obtain ⟨after', hskip', hafter⟩ := (hskip ▸ hF.skip hb).cons
    obtain ⟨fuel', rfl⟩ := Nat.exists_eq_add_of_le' (Nat.one_le_of_lt hfuel)
    obtain ⟨rest', hread, hrest⟩ := ih (Nat.le_of_succ_le_succ hfuel) hb ht hafter h
    exact ⟨rest', by simp [readItems?, hskip', hread], hrest⟩
  | case6 blanks count alternatives sequence cs fuel after hskip changes counted left hstart ih =>
    -- switches, which hold from here on
    obtain ⟨after', hskip', hafter⟩ := (hskip ▸ hF.skip hb).cons
    obtain ⟨fuel', rfl⟩ := Nat.exists_eq_add_of_le' (Nat.one_le_of_lt hfuel)
    obtain ⟨left', hstart', hleft⟩ := readGroupStart?_followed hb hafter hstart
    have hswitched : (flagState? changes .ignoreBlanks).getD blanks = true → ignoring := by
      intro hon
      rcases blanks_of_getD hon with hflag | hblanks
      · exact ht (ignoresBlanks_of_readItems? h (by simp [Tree.ignoresBlanks, hflag]))
      · exact hb hblanks
    obtain ⟨rest', hread, hrest⟩ := ih (Nat.le_of_succ_le_succ hfuel) hswitched ht hleft h
    exact ⟨rest', by simp [readItems?, hskip', hstart', hread], hrest⟩
  | case7 blanks count alternatives sequence cs fuel after hskip kind counted left hstart inner u
      counted' last hinner ihinner =>
    -- a group, which ends at a parenthesis of its own
    rename_i ih
    obtain ⟨after', hskip', hafter⟩ := (hskip ▸ hF.skip hb).cons
    obtain ⟨fuel', rfl⟩ := Nat.exists_eq_add_of_le' (Nat.one_le_of_lt hfuel)
    obtain ⟨left', hstart', hleft⟩ := readGroupStart?_followed hb hafter hstart
    have hgroup : (Tree.group kind u).ignoresBlanks = true → ignoring := fun hon =>
      ht (ignoresBlanks_of_readItems? h (by rw [List.any_cons, hon, Bool.true_or, Bool.or_true]))
    have hinside : inner = true → ignoring := by
      intro hon
      cases kind with
      | capturing number => exact hb hon
      | plain changes =>
        rcases blanks_of_getD hon with hflag | hblanks
        · exact hgroup (by simp [Tree.ignoresBlanks, hflag])
        · exact hb hblanks
    have htree : u.ignoresBlanks = true → ignoring := fun hon =>
      hgroup (by cases kind <;> simp [Tree.ignoresBlanks, hon])
    have hfuel := Nat.le_of_succ_le_succ hfuel
    obtain ⟨close', hread, hclose⟩ := ihinner hfuel hinside htree hleft hinner
    obtain ⟨last', rfl, hlast⟩ := hclose.cons
    obtain ⟨rest', hread', hrest⟩ := ih hfuel hb ht hlast h
    refine ⟨rest', ?_, hrest⟩
    simp only [inner] at hread
    simp only [readItems?, hskip', hstart', hread, hread']
  | case10 blanks count alternatives sequence cs fuel after hskip u left hbracket ih =>
    -- a class in brackets
    obtain ⟨after', hskip', hafter⟩ := (hskip ▸ hF.skip hb).cons
    obtain ⟨fuel', rfl⟩ := Nat.exists_eq_add_of_le' (Nat.one_le_of_lt hfuel)
    obtain ⟨left', hbracket', hleft⟩ := readBracket?_followed hb hafter hbracket
    obtain ⟨rest', hread, hrest⟩ := ih (Nat.le_of_succ_le_succ hfuel) hb ht hleft h
    exact ⟨rest', by simp [readItems?, hskip', hbracket', hread], hrest⟩
  | case12 blanks count alternatives sequence cs fuel after hskip u left hescape ih =>
    -- an escape
    obtain ⟨after', hskip', hafter⟩ := (hskip ▸ hF.skip hb).cons
    obtain ⟨fuel', rfl⟩ := Nat.exists_eq_add_of_le' (Nat.one_le_of_lt hfuel)
    obtain ⟨left', hescape', hleft⟩ := readEscape?_followed hb hafter hescape
    obtain ⟨rest', hread, hrest⟩ := ih (Nat.le_of_succ_le_succ hfuel) hb ht hleft h
    exact ⟨rest', by simp [readItems?, hskip', hescape', hread], hrest⟩
  | case15 blanks count alternatives cs fuel c after hclose hbar hopen hbracket hbackslash hskip hmark u
      earlier hrepeatable min max greedy left hrepetition ih =>
    -- a repetition of the last item
    obtain ⟨after', hskip', hafter⟩ := (hskip ▸ hF.skip hb).cons
    obtain ⟨fuel', rfl⟩ := Nat.exists_eq_add_of_le' (Nat.one_le_of_lt hfuel)
    obtain ⟨left', hrepetition', hleft⟩ := readRepetition?_followed hb hafter hrepetition
    obtain ⟨rest', hread, hrest⟩ := ih (Nat.le_of_succ_le_succ hfuel) hb ht hleft h
    exact ⟨rest', by simp [readItems?, hskip', hmark, hrepeatable, hrepetition', hread], hrest⟩
  | case17 blanks count alternatives sequence cs fuel c after hclose hbar hopen hbracket hbackslash hskip
      hmark u =>
    -- a dot, an anchor or a literal
    rename_i ih
    obtain ⟨after', hskip', hafter⟩ := (hskip ▸ hF.skip hb).cons
    obtain ⟨fuel', rfl⟩ := Nat.exists_eq_add_of_le' (Nat.one_le_of_lt hfuel)
    obtain ⟨rest', hread, hrest⟩ := ih (Nat.le_of_succ_le_succ hfuel) hb ht hafter h
    refine ⟨rest', ?_, hrest⟩
    simp only [u] at hread
    simp [readItems?, hskip', hmark, hread]
  | case1 | case5 | case8 | case9 | case11 | case13 | case14 | case16 => cases h

end Items

/-- A whole pattern with a closing parenthesis after it: the same is read and the parenthesis is left,
unless a comment swallows it. -/
theorem readItems?_append {cs : List Char} {t : Tree} {count : GroupCount} {fuel : Nat}
    (hfuel : cs.length + 1 ≤ fuel)
    (h : readItems? (cs.length + 1) false {} [] [] cs = some (t, count, [])) :
    readItems? fuel false {} [] [] (cs ++ [')']) = some (t, count, [')']) ∨
      readItems? fuel false {} [] [] (cs ++ [')']) = some (t, count, []) ∧
        t.ignoresBlanks = true ∧ MayEndInComment cs := by
  have hF : Followed cs (t.ignoresBlanks = true) cs (cs ++ [')']) :=
    ⟨List.suffix_rfl, Or.inl rfl⟩
  obtain ⟨rest', hread, -, hrest⟩ := readItems?_followed hfuel (by simp) id hF h
  rcases hrest with rfl | ⟨-, rfl, hcomment⟩
  · exact Or.inl hread
  · exact Or.inr ⟨hread, hcomment⟩

/-- With an unmatched parenthesis after it a pattern is a pattern no longer, unless it ignores blanks
somewhere and has a hash mark in its last line. -/
theorem Tree.ofText?_append_eq_none {text : String} {t : Tree} {names : List (String × Nat)}
    (h : Tree.ofText? text = some (t, names))
    (hcomment : t.ignoresBlanks = true → ¬MayEndInComment text.toList) :
    Tree.ofText? (text ++ ")") = none := by
  obtain ⟨count, hread, -, -⟩ := readItems?_of_ofText? h
  have hfuel : text.toList.length + 1 ≤ text.toList.length + 1 + 1 := Nat.le_succ _
  rcases readItems?_append hfuel hread with hleft | ⟨-, hon, hend⟩
  · simp [ofText?, hleft]
  · exact absurd hend (hcomment hon)

/-! ## Anchored groups -/

/-- The tree of a pattern in an anchored group. -/
def Tree.anchored (t : Tree) : Tree := .sequence [.assertion .caret, .group (.plain []) t]

theorem Tree.nesting_anchored (t : Tree) : t.anchored.nesting = t.nesting + 2 := by
  simp [Tree.anchored, Tree.nesting, Tree.nestingOfList]

/-- What reads up to a parenthesis reads as a group after an anchor. -/
theorem readItems?_anchored {cs : List Char} {t : Tree} {count : GroupCount} {fuel : Nat}
    (h : readItems? (fuel + 1) false {} [] [] (cs ++ [')']) = some (t, count, [')'])) :
    readItems? (fuel + 3) false {} [] [] ('^' :: '(' :: '?' :: ':' :: (cs ++ [')'])) =
      some (t.anchored, count, []) := by
  have hstart : ∀ ds : List Char, readGroupStart? false {} ('?' :: ':' :: ds) =
      some (.group (.plain []), {}, ds) := fun ds => by
    simp [readGroupStart?, skip, readFlags?]
  have hstop : ∀ seq : List Tree, readItems? (fuel + 1) false count [] seq [] =
      some (treeOfParts [] seq, count, []) := fun seq => by simp [readItems?, skip]
  have hgroup : ∀ seq : List Tree, readItems? (fuel + 2) false {} [] seq
      ('(' :: '?' :: ':' :: (cs ++ [')'])) =
        some (treeOfParts [] (.group (.plain []) t :: seq), count, []) := fun seq => by
    rw [readItems?]
    simp [skip, hstart, flagState?, h, hstop]
  rw [readItems?]
  simp [skip, isRepetitionMark, hgroup]
  rfl

/-- A pattern in an anchored group is read as its own tree in an anchored group, unless the closing
parenthesis is swallowed. -/
theorem Tree.ofText?_anchored {text : String} {t : Tree} {names : List (String × Nat)}
    (h : Tree.ofText? text = some (t, names)) (hnesting : t.nesting + 2 ≤ nestingLimit)
    (hclose : Tree.ofText? (text ++ ")") = none) :
    Tree.ofText? ("^(?:" ++ text ++ ")") = some (t.anchored, names) := by
  obtain ⟨count, hread, hlimit, rfl⟩ := readItems?_of_ofText? h
  have hclosed : readItems? (text.toList.length + 1 + 1) false {} [] [] (text.toList ++ [')']) =
      some (t, count, [')']) := by
    rcases readItems?_append (Nat.le_succ _) hread with hleft | ⟨hswallowed, -⟩
    · exact hleft
    · simp [ofText?, hswallowed, hlimit] at hclose
  have hfuel : text.toList.length + 1 + 1 ≤ text.toList.length + 3 + 1 := by omega
  have hall := readItems?_anchored (readItems?_mono hfuel hclosed)
  have hcs : ("^(?:" ++ text ++ ")").toList =
      '^' :: '(' :: '?' :: ':' :: (text.toList ++ [')']) := by simp
  have hlength : ('^' :: '(' :: '?' :: ':' :: (text.toList ++ [')'])).length + 1 =
      text.toList.length + 3 + 3 := by simp
  unfold ofText?
  dsimp only
  rw [hcs, hlength, hall]
  exact if_pos (t.nesting_anchored ▸ hnesting)

/-- An anchored tree is the condition on the start, and then the expression of the tree. -/
theorem Tree.expression?_anchored {t : Tree} {r : Regex} {s : Switches}
    (h : t.expression? {} = some (r, s)) :
    t.anchored.expression? {} = some (.seq (.look .textStart) r, {}) := by
  have happly : ({} : Switches).apply [] = {} := rfl
  simp [Tree.anchored, Tree.expression?, Tree.expressionOfSequence?, happly, h, Switches.lookOf]

/-- A pattern can be put in an anchored group: its nesting and its size stay below the limits, and it
does not end in a comment, which would swallow the closing parenthesis. -/
structure LeavesRoom (text : String) (e : Expression) : Prop where
  nesting : ∀ t names, Tree.ofText? text = some (t, names) → t.nesting + 2 ≤ nestingLimit
  size : size (.look .textStart) + size e.body ≤ sizeLimit
  noComment : Tree.ofText? (text ++ ")") = none

/-- A pattern in an anchored group is compiled to an anchor before the pattern's own expression. -/
theorem Expression.ofText?_anchored {text : String} {e : Expression}
    (h : Expression.ofText? text = some e) (hroom : LeavesRoom text e) :
    Expression.ofText? ("^(?:" ++ text ++ ")") =
      some ⟨.seq (.look .textStart) e.body, e.names⟩ := by
  unfold Expression.ofText? at h
  split at h
  case h_1 => cases h
  case h_2 t names htree =>
    split at h
    case h_1 => cases h
    case h_2 r s hbody =>
      split_ifs at h
      cases h
      have hanchored :=
        Tree.ofText?_anchored htree (hroom.nesting t names htree) hroom.noComment
      simp only [ofText?, hanchored, Tree.expression?_anchored hbody]
      exact if_pos hroom.size

/-! ## Patterns that leave no room -/

/-- A group whose closing parenthesis has been swallowed is never closed. -/
theorem readItems?_anchored_eq_none {cs : List Char} {t : Tree} {count : GroupCount} {fuel : Nat}
    (h : readItems? (fuel + 1) false {} [] [] (cs ++ [')']) = some (t, count, [])) :
    readItems? (fuel + 3) false {} [] [] ('^' :: '(' :: '?' :: ':' :: (cs ++ [')'])) = none := by
  have hstart : ∀ ds : List Char, readGroupStart? false {} ('?' :: ':' :: ds) =
      some (.group (.plain []), {}, ds) := fun ds => by
    simp [readGroupStart?, skip, readFlags?]
  have hgroup : ∀ seq : List Tree, readItems? (fuel + 2) false {} [] seq
      ('(' :: '?' :: ':' :: (cs ++ [')'])) = none := fun seq => by
    rw [readItems?]
    simp [skip, hstart, flagState?, h]
  rw [readItems?]
  simp [skip, isRepetitionMark, hgroup]

/-- A pattern text that is read in an anchored group is read there as its own tree, and its closing
parenthesis is not swallowed. -/
theorem Tree.eq_anchored_of_ofText? {text : String} {t u : Tree}
    {names names' : List (String × Nat)} (h : Tree.ofText? text = some (t, names))
    (hu : Tree.ofText? ("^(?:" ++ text ++ ")") = some (u, names')) :
    u = t.anchored ∧ t.nesting + 2 ≤ nestingLimit ∧ Tree.ofText? (text ++ ")") = none := by
  obtain ⟨count, hread, -, -⟩ := readItems?_of_ofText? h
  obtain ⟨count', hall, hlimit, -⟩ := readItems?_of_ofText? hu
  have hcs : ("^(?:" ++ text ++ ")").toList =
      '^' :: '(' :: '?' :: ':' :: (text.toList ++ [')']) := by simp
  have hlength : ('^' :: '(' :: '?' :: ':' :: (text.toList ++ [')'])).length + 1 =
      text.toList.length + 3 + 3 := by simp
  rw [hcs, hlength] at hall
  have hfuel : text.toList.length + 1 ≤ text.toList.length + 3 + 1 := by omega
  rcases readItems?_append hfuel hread with hleft | ⟨hswallowed, -⟩
  · rw [readItems?_anchored hleft] at hall
    cases hall
    refine ⟨rfl, t.nesting_anchored ▸ hlimit, ?_⟩
    rcases readItems?_append (Nat.le_succ _) hread with hclosed | ⟨hclosed, -⟩
    · simp [ofText?, hclosed]
    · -- less fuel cannot have swallowed what more fuel leaves
      rw [readItems?_mono (by omega) hclosed] at hleft
      cases hleft
  · rw [readItems?_anchored_eq_none hswallowed] at hall
    cases hall

/-- A pattern can be put in an anchored group only if it leaves room for it. -/
theorem leavesRoom_of_ofText?_anchored {text : String} {e e' : Expression}
    (h : Expression.ofText? text = some e)
    (h' : Expression.ofText? ("^(?:" ++ text ++ ")") = some e') : LeavesRoom text e := by
  unfold Expression.ofText? at h h'
  split at h
  case h_1 => cases h
  case h_2 t names htree =>
    split at h'
    case h_1 => cases h'
    case h_2 u names' htree' =>
      obtain ⟨rfl, hnesting, hclose⟩ := Tree.eq_anchored_of_ofText? htree htree'
      split at h
      case h_1 => cases h
      case h_2 r s hbody =>
        rw [Tree.expression?_anchored hbody] at h'
        split_ifs at h
        cases h
        dsimp only at h'
        split_ifs at h' with hroom
        refine ⟨fun t' names'' ht' => ?_, hroom, hclose⟩
        rw [htree] at ht'
        cases ht'
        exact hnesting

/-- The expression of an anchored group, wherever there is one, is an anchor before the pattern's own
expression. -/
theorem Expression.eq_of_ofText?_anchored {text : String} {e e' : Expression}
    (h : Expression.ofText? text = some e)
    (h' : Expression.ofText? ("^(?:" ++ text ++ ")") = some e') :
    e' = ⟨.seq (.look .textStart) e.body, e.names⟩ := by
  rw [ofText?_anchored h (leavesRoom_of_ofText?_anchored h h')] at h'
  exact (Option.some.inj h').symm

end ClusterMonitor.Regex

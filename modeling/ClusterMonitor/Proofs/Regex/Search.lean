import ClusterMonitor.Proofs.Regex.Outcomes
import ClusterMonitor.Regex.Replacement

/-!
# Searching and replacing

A search finds the leftmost match. Replacing the matches of a pattern, none of which is empty, is one
pass over the text: at each character a match is looked for, and what it covers is passed over.

* `find?_start_iff` — when the leftmost match starts where the search does.
* `matchAt?_moved` — what matches at a place does not depend on how far the text has come.
* `found` and `matches_eq_found` — the matches that the pass meets are the successive ones.
* `scan` and `replaceAllWith_eq_scan` — what the pass gives is the text with its matches replaced.
* `scan_induction` — the induction over the steps of a pass.
-/

namespace ClusterMonitor.Regex

/-! ## The leftmost match -/

/-- A match starts where it was looked for. -/
theorem start_of_matchAt? {r : Regex} {p : Place} {m : Match} (h : matchAt? r p = some m) :
    m.start = p.index := by
  obtain ⟨t, -, rfl⟩ := Option.map_eq_some_iff.mp h
  rfl

/-- What is found from a place on is a match at this place or a later one. -/
theorem exists_of_findFrom? {r : Regex} {index : Nat} {before : Option Char} {cs : List Char}
    {m : Match} (h : findFrom? r index before cs = some m) :
    ∃ p : Place, index ≤ p.index ∧ matchAt? r p = some m := by
  induction cs generalizing index before with
  | nil => exact ⟨_, le_rfl, h⟩
  | cons c rest ih =>
    rw [findFrom?] at h
    split at h
    · rename_i m' hmatch
      cases h
      exact ⟨_, le_rfl, hmatch⟩
    · obtain ⟨p, hp, hmatch⟩ := ih h
      exact ⟨p, Nat.le_of_succ_le hp, hmatch⟩

/-- The leftmost match starts here if and only if there is a match here. -/
theorem find?_start_iff (r : Regex) (p : Place) :
    (∃ m, find? r p = some m ∧ m.start = p.index) ↔ (matchAt? r p).isSome = true := by
  obtain ⟨index, before, rest⟩ := p
  rw [find?]
  cases rest with
  | nil =>
    rw [findFrom?, Option.isSome_iff_exists]
    exact exists_congr fun m => and_iff_left_of_imp start_of_matchAt?
  | cons c rest =>
    rw [findFrom?]
    cases h : matchAt? r ⟨index, before, c :: rest⟩ with
    | some m =>
      simp only [Option.isSome_some, iff_true]
      exact ⟨m, rfl, start_of_matchAt? h⟩
    | none =>
      simp only [Option.isSome_none, Bool.false_eq_true, iff_false]
      rintro ⟨m, hm, hstart⟩
      obtain ⟨p, hp, hmatch⟩ := exists_of_findFrom? hm
      have hstart' := start_of_matchAt? hmatch
      omega

/-! ## Matches at the start of a text -/

section Anchored

variable {r : Regex}

/-- An anchored expression matches at the start of a text like the expression, and nowhere else. -/
theorem matchAt?_textStart (p : Place) :
    matchAt? (.seq (.look .textStart) r) p = if p.before.isNone then matchAt? r p else none := by
  unfold matchAt?
  rw [outcomes, andThen, head?_distinct, outcomes]
  by_cases h : p.before.isNone = true
  · simp [Look.holds, h]
  · simp [Look.holds, h]

/-- Past the start of the text nothing anchored is found. -/
theorem findFrom?_textStart_eq_none {index : Nat} {before : Char} (cs : List Char) :
    findFrom? (.seq (.look .textStart) r) index (some before) cs = none := by
  induction cs generalizing index before with
  | nil => rw [findFrom?, matchAt?_textStart]; rfl
  | cons c rest ih =>
    rw [findFrom?, matchAt?_textStart, ih]
    rfl

/-- An expression behind an anchor matches a text if it matches at the start of the text. -/
theorem isMatch_textStart (text : String) :
    isMatch (.seq (.look .textStart) r) text = (matchAt? r (.ofText text.toList)).isSome := by
  rw [isMatch, find?, Place.ofText]
  cases text.toList with
  | nil => rw [findFrom?, matchAt?_textStart]; rfl
  | cons c rest =>
    rw [findFrom?, matchAt?_textStart, findFrom?_textStart_eq_none]
    dsimp only [Option.isNone_none, if_true]
    cases matchAt? r ⟨0, none, c :: rest⟩ <;> rfl

end Anchored

/-! ## Matches further on in a text -/

/-- The same match in a text that has more before it. -/
def Match.moved (d : Nat) (m : Match) : Match :=
  ⟨m.start + d, m.stop + d, m.groups.map fun e => (e.1, e.2.1 + d, e.2.2 + d)⟩

/-- A match further on in a text is the same match with its bounds moved. -/
theorem matchAt?_moved (r : Regex) (index : Nat) (before : Option Char) (cs : List Char) :
    matchAt? r ⟨index, before, cs⟩ = (matchAt? r ⟨0, before, cs⟩).map (Match.moved index) := by
  have hplace : moved index [] ⟨⟨0, before, cs⟩, []⟩ = ⟨⟨index, before, cs⟩, []⟩ := by
    simp [moved]
  have h := uniform_outcomes index [] r ⟨⟨0, before, cs⟩, []⟩
  rw [hplace] at h
  simp [matchAt?, h, Function.comp_def, moved, Match.moved]

/-- A slice further on in a text covers the same characters. -/
theorem slice_append (pre cs : List Char) (start stop : Nat) :
    slice (pre ++ cs) (start + pre.length) (stop + pre.length) = slice cs start stop := by
  rw [slice, slice, Nat.add_sub_add_right, Nat.add_comm start, List.drop_length_add_append]

/-- What a group has matched is the same further on. -/
theorem Match.group?_moved (pre cs : List Char) (m : Match) (number : Nat) :
    (m.moved pre.length).group? (pre ++ cs) number = m.group? cs number := by
  unfold Match.group?
  split
  · exact congrArg some (slice_append pre cs m.start m.stop)
  · simp [Match.moved, List.findSome?_map, Function.comp_def, slice_append]

/-- A named group further on in a text has the same characters. -/
theorem Match.named?_moved (pre cs : List Char) (m : Match) (e : Expression) (name : String) :
    (m.moved pre.length).named? e (pre ++ cs) name = m.named? e cs name := by
  unfold Match.named?
  split
  · exact Match.group?_moved pre cs m _
  · rfl

/-! ## One pass over a text -/

/-- The expression matches no empty text. -/
def NeverEmpty (r : Regex) : Prop := ∀ p m, matchAt? r p = some m → m.start < m.stop

/-- The matches that a pass over the text meets: a number of characters, which the last match covers,
are passed over first. -/
def found (r : Regex) : Option Char → Nat → Nat → List Char → List Match
  | _, _, _, [] => []
  | _, skip + 1, index, c :: rest => found r (some c) skip (index + 1) rest
  | before, 0, index, c :: rest =>
    match matchAt? r ⟨index, before, c :: rest⟩ with
    | some m => m :: found r (some c) (m.stop - index - 1) (index + 1) rest
    | none => found r (some c) 0 (index + 1) rest

/-- What a pass over the text gives, each match replaced by a text that is computed from it and from
the text that starts with it. -/
def scan (r : Regex) (replacement : List Char → Match → List Char) :
    Option Char → Nat → List Char → List Char
  | _, _, [] => []
  | _, skip + 1, c :: rest => scan r replacement (some c) skip rest
  | before, 0, c :: rest =>
    match matchAt? r ⟨0, before, c :: rest⟩ with
    | some m => replacement (c :: rest) m ++ scan r replacement (some c) (m.stop - 1) rest
    | none => c :: scan r replacement (some c) 0 rest

section Pass

variable {r : Regex}

/-- A match goes no further than the text. -/
theorem stop_le_of_matchAt? {p : Place} {m : Match} (h : matchAt? r p = some m) :
    m.stop ≤ p.index + p.rest.length := by
  obtain ⟨t, ht, rfl⟩ := Option.map_eq_some_iff.mp h
  obtain ⟨n, hn, hplace⟩ := goesOn_outcomes r ⟨p, []⟩ t (List.mem_of_mem_head? ht)
  dsimp only at hn hplace ⊢
  rw [hplace, Place.index_advance hn]
  omega

/-- A match starts where it is looked for, and takes part of what is left of the text. -/
theorem bounds_of_matchAt? (hr : NeverEmpty r) {index : Nat} {before : Option Char}
    {cs : List Char} {m : Match} (h : matchAt? r ⟨index, before, cs⟩ = some m) :
    m.start = index ∧ index < m.stop ∧ m.stop ≤ index + cs.length := by
  have hstart : m.start = index := start_of_matchAt? h
  have hlt := hr _ m h
  rw [hstart] at hlt
  exact ⟨hstart, hlt, stop_le_of_matchAt? h⟩

/-- An expression that never matches the empty text does not match at its end. -/
theorem matchAt?_nil (hr : NeverEmpty r) (index : Nat) (before : Option Char) :
    matchAt? r ⟨index, before, []⟩ = none := by
  cases h : matchAt? r ⟨index, before, []⟩ with
  | none => rfl
  | some m =>
    obtain ⟨-, hlt, hle⟩ := bounds_of_matchAt? hr h
    rw [List.length_nil] at hle
    omega

/-- Skipping characters comes to the same as starting behind them. -/
theorem found_skip (p : Place) {n : Nat} (h : n ≤ p.rest.length) :
    found r p.before n p.index p.rest =
      found r (p.advance n).before 0 (p.advance n).index (p.advance n).rest := by
  induction n generalizing p with
  | zero => rfl
  | succ n ih =>
    obtain ⟨index, before, rest⟩ := p
    cases rest with
    | nil => simp at h
    | cons c rest => exact ih ⟨index + 1, some c, rest⟩ (Nat.le_of_succ_le_succ h)

/-- A pass meets the leftmost match first, and goes on behind it. -/
theorem found_eq (hr : NeverEmpty r) (p : Place) :
    found r p.before 0 p.index p.rest = match find? r p with
      | none => []
      | some m =>
        let q := p.advance (m.stop - p.index)
        m :: found r q.before 0 q.index q.rest := by
  obtain ⟨index, before, rest⟩ := p
  rw [find?]
  induction rest generalizing index before with
  | nil => rw [found, findFrom?, matchAt?_nil hr]
  | cons c rest ih =>
    rw [found, findFrom?]
    cases h : matchAt? r ⟨index, before, c :: rest⟩ with
    | some m =>
      obtain ⟨-, hlt, hle⟩ := bounds_of_matchAt? hr h
      rw [List.length_cons] at hle
      obtain ⟨n, hn⟩ := Nat.exists_eq_add_of_lt hlt
      have hskip := found_skip (r := r) ⟨index + 1, some c, rest⟩ (n := n) (by dsimp only; omega)
      have hstop : m.stop - index = n + 1 := by omega
      dsimp only at hskip ⊢
      rw [hstop, Nat.add_sub_cancel, hskip]
      rfl
    | none =>
      -- counted from here, the leftmost match further on is one character further away
      rw [ih (index + 1) (some c)]
      cases hfind : findFrom? r (index + 1) (some c) rest with
      | none => rfl
      | some m =>
        obtain ⟨p, hp, hmatch⟩ := exists_of_findFrom? hfind
        have hstart := start_of_matchAt? hmatch
        have hlt := hr p m hmatch
        have hstop : m.stop - index = m.stop - (index + 1) + 1 := by omega
        dsimp only
        rw [hstop]
        rfl

/-- Each match leaves fewer characters. -/
theorem rest_length_lt_of_find? (hr : NeverEmpty r) {p : Place} {m : Match}
    (h : find? r p = some m) : (p.advance (m.stop - p.index)).rest.length < p.rest.length := by
  obtain ⟨q, hq, hmatch⟩ := exists_of_findFrom? h
  have hstart := start_of_matchAt? hmatch
  have hlt := hr q m hmatch
  have hne : p.rest ≠ [] := by
    intro hnil
    rw [find?, hnil, findFrom?, matchAt?_nil hr] at h
    cases h
  have hpos := List.length_pos_iff.mpr hne
  rw [Place.rest_advance, List.length_drop]
  omega

/-- The matches one after another are those of one pass, as no match is empty. -/
theorem matchesFrom_eq_found (hr : NeverEmpty r) {budget : Nat} {p : Place}
    (h : p.rest.length < budget) (last : Option Nat) :
    matchesFrom r budget last p = found r p.before 0 p.index p.rest := by
  induction budget generalizing p last with
  | zero => cases h
  | succ budget ih =>
    rw [matchesFrom, found_eq hr p]
    cases hfind : find? r p with
    | none => rfl
    | some m =>
      obtain ⟨q, hq, hmatch⟩ := exists_of_findFrom? hfind
      have hne : ¬(m.start = m.stop ∧ last = some m.stop) := fun hempty =>
        (hr q m hmatch).ne hempty.1
      have hlt := rest_length_lt_of_find? hr hfind
      dsimp only
      rw [if_neg hne, ih (by omega)]

/-- The successive matches in a text are those that a pass over it meets. -/
theorem matches_eq_found (hr : NeverEmpty r) (cs : List Char) :
    r.matches cs = found r none 0 0 cs :=
  matchesFrom_eq_found hr (by simp [Place.ofText]; omega) none

/-- The matches found from a place on start there or later. -/
theorem index_le_start_of_mem_found {before : Option Char} {skip index : Nat} {cs : List Char}
    {m : Match} (h : m ∈ found r before skip index cs) : index ≤ m.start := by
  induction cs generalizing before skip index with
  | nil => cases h
  | cons c rest ih =>
    cases skip with
    | succ skip => exact Nat.le_of_succ_le (ih h)
    | zero =>
      rw [found] at h
      split at h
      · rename_i m' hmatch
        rcases List.mem_cons.mp h with rfl | h
        · exact (start_of_matchAt? hmatch).ge
        · exact Nat.le_of_succ_le (ih h)
      · exact Nat.le_of_succ_le (ih h)

/-- The replaced texts do not depend on how far a text has come. -/
def Local (replacement : List Char → Match → List Char) : Prop :=
  ∀ pre cs m, replacement (pre ++ cs) (m.moved pre.length) = replacement cs m

/-- A character before the first match stays as it is. -/
theorem replaceFrom_cons {replacement : Match → List Char} {pre rest : List Char} {c : Char}
    {ms : List Match} (h : ∀ m ∈ ms, pre.length + 1 ≤ m.start) :
    replaceFrom replacement (pre ++ c :: rest) pre.length ms =
      c :: replaceFrom replacement (pre ++ c :: rest) (pre.length + 1) ms := by
  have hdrop : (pre ++ c :: rest).drop (pre.length + 1) = rest := by simp
  cases ms with
  | nil => simp [replaceFrom, hdrop]
  | cons m ms =>
    obtain ⟨n, hn⟩ := Nat.exists_eq_add_of_le (h m List.mem_cons_self)
    have hlong : m.start - pre.length = n + 1 := by omega
    have hshort : m.start - (pre.length + 1) = n := by omega
    simp [replaceFrom, slice, hdrop, hlong, hshort]

/-- To collect the matches and then replace them comes to the same as to replace each as it is
met. -/
theorem replaceFrom_found (hr : NeverEmpty r) {replacement : List Char → Match → List Char}
    (hlocal : Local replacement) (pre cs : List Char) (before : Option Char) {skip : Nat}
    (hskip : skip ≤ cs.length) :
    replaceFrom (replacement (pre ++ cs)) (pre ++ cs) (pre.length + skip)
        (found r before skip pre.length cs) = scan r replacement before skip cs := by
  induction cs generalizing pre before skip with
  | nil => simp [found, scan, replaceFrom]
  | cons c rest ih =>
    -- the text stays whole while the pass moves on, with one more character behind it
    have hpre : pre ++ c :: rest = (pre ++ [c]) ++ rest := by simp
    have hlength : (pre ++ [c]).length = pre.length + 1 := by simp
    have hnext := fun before {skip} (hskip : skip ≤ rest.length) =>
      ih (pre ++ [c]) before hskip
    rw [← hpre, hlength] at hnext
    cases skip with
    | succ skip =>
      rw [found, scan, ← hnext (some c) (Nat.le_of_succ_le_succ hskip)]
      congr 1
      omega
    | zero =>
      rw [found, scan, matchAt?_moved]
      cases h : matchAt? r ⟨0, before, c :: rest⟩ with
      | some m =>
        obtain ⟨hstart, hlt, hle⟩ := bounds_of_matchAt? hr h
        rw [List.length_cons] at hle
        have hbehind := hnext (some c) (show m.stop - 1 ≤ rest.length by omega)
        have hstop : (m.moved pre.length).stop = pre.length + 1 + (m.stop - 1) := by
          simp only [Match.moved]
          omega
        have hgap : (m.moved pre.length).stop - pre.length - 1 = m.stop - 1 := by
          simp only [Match.moved]
          omega
        have hslice : slice (pre ++ c :: rest) (pre.length + 0) (m.moved pre.length).start = [] := by
          simp [slice, Match.moved, hstart]
        simp only [Option.map_some, replaceFrom]
        rw [hslice, hlocal, hgap, hstop, hbehind]
        rfl
      | none =>
        simp only [Option.map_none]
        rw [Nat.add_zero, replaceFrom_cons fun m hm => index_le_start_of_mem_found hm]
        exact congrArg (c :: ·) (hnext (some c) (Nat.zero_le _))

/-- Replacing the matches in a text is a pass over it. -/
theorem replaceAllWith_eq_scan {e : Expression} (hr : NeverEmpty e.body)
    {replacement : List Char → Match → List Char} (hlocal : Local replacement) (text : String) :
    e.replaceAllWith text replacement =
      String.ofList (scan e.body replacement none 0 text.toList) := by
  have h := replaceFrom_found hr hlocal [] text.toList none (Nat.zero_le _)
  rw [Expression.replaceAllWith, matches_eq_found hr]
  exact congrArg String.ofList h

end Pass

/-! ## Passes step by step -/

/-- The last character before a place: that of the text in between, if there is any. -/
def lastOf (before : Option Char) (xs : List Char) : Option Char :=
  xs.foldl (fun _ c => some c) before

section Steps

variable {r : Regex} {replacement : List Char → Match → List Char} {before : Option Char}

/-- An expression matches no empty text if it matches none at the start of a text. -/
theorem neverEmpty_of_stop (h : ∀ before cs m, matchAt? r ⟨0, before, cs⟩ = some m → 0 < m.stop) :
    NeverEmpty r := by
  rintro ⟨index, before, cs⟩ m hm
  have hstart := start_of_matchAt? hm
  rw [matchAt?_moved] at hm
  obtain ⟨m', hm', rfl⟩ := Option.map_eq_some_iff.mp hm
  have hpos := h before cs m' hm'
  simp only [Match.moved] at hstart ⊢
  omega

/-- A pass that skips characters goes on behind them. -/
theorem scan_skip (xs rest : List Char) :
    scan r replacement before xs.length (xs ++ rest) =
      scan r replacement (lastOf before xs) 0 rest := by
  induction xs generalizing before with
  | nil => rfl
  | cons x xs ih => exact ih

/-- A search that skips characters goes on behind them. -/
theorem found_skip_append (xs rest : List Char) (index : Nat) :
    found r before xs.length index (xs ++ rest) =
      found r (lastOf before xs) 0 (index + xs.length) rest := by
  induction xs generalizing before index with
  | nil => rfl
  | cons x xs ih =>
    rw [List.length_cons, ← Nat.add_assoc, Nat.add_right_comm]
    exact ih (index + 1)

/-- Where nothing matches, the pass keeps a character and goes on. -/
theorem scan_of_none {c : Char} {rest : List Char}
    (h : matchAt? r ⟨0, before, c :: rest⟩ = none) :
    scan r replacement before 0 (c :: rest) = c :: scan r replacement (some c) 0 rest := by
  rw [scan, h]

/-- Where something matches, the pass replaces it and goes on behind it. -/
theorem scan_of_some {xs rest : List Char} {m : Match}
    (h : matchAt? r ⟨0, before, xs ++ rest⟩ = some m) (hstop : m.stop = xs.length) (hne : xs ≠ []) :
    scan r replacement before 0 (xs ++ rest) =
      replacement (xs ++ rest) m ++ scan r replacement (lastOf before xs) 0 rest := by
  obtain ⟨x, xs, rfl⟩ := List.exists_cons_of_ne_nil hne
  rw [List.cons_append] at h ⊢
  rw [scan, h]
  simp only [hstop, List.length_cons, Nat.add_sub_cancel]
  rw [scan_skip]
  rfl

/-- Where nothing matches, the search goes on one character further. -/
theorem found_of_none {c : Char} {rest : List Char} (h : matchAt? r ⟨0, before, c :: rest⟩ = none)
    (index : Nat) : found r before 0 index (c :: rest) = found r (some c) 0 (index + 1) rest := by
  rw [found, matchAt?_moved, h]
  rfl

/-- Where something matches, the search goes on behind it. -/
theorem found_of_some {xs rest : List Char} {m : Match}
    (h : matchAt? r ⟨0, before, xs ++ rest⟩ = some m) (hstop : m.stop = xs.length) (hne : xs ≠ [])
    (index : Nat) :
    found r before 0 index (xs ++ rest) =
      m.moved index :: found r (lastOf before xs) 0 (index + xs.length) rest := by
  obtain ⟨x, xs, rfl⟩ := List.exists_cons_of_ne_nil hne
  have hlength : m.stop + index - index - 1 = xs.length := by
    rw [hstop, List.length_cons]
    omega
  rw [List.cons_append] at h ⊢
  rw [found, matchAt?_moved, h]
  simp only [Option.map_some, Match.moved, hlength]
  rw [found_skip_append, List.length_cons, Nat.add_right_comm, Nat.add_assoc]
  rfl

/-- A pass over a text copies a character where nothing matches, and replaces what matches. -/
@[elab_as_elim]
theorem scan_induction (replacement : List Char → Match → List Char)
    {motive : Option Char → List Char → List Char → Prop} (hr : NeverEmpty r)
    (nil : ∀ before, motive before [] [])
    (copied : ∀ before c rest, matchAt? r ⟨0, before, c :: rest⟩ = none →
      motive (some c) rest (scan r replacement (some c) 0 rest) →
        motive before (c :: rest) (c :: scan r replacement (some c) 0 rest))
    (replaced : ∀ before m xs rest, matchAt? r ⟨0, before, xs ++ rest⟩ = some m →
      m.stop = xs.length → xs ≠ [] →
        motive (lastOf before xs) rest (scan r replacement (lastOf before xs) 0 rest) →
          motive before (xs ++ rest)
            (replacement (xs ++ rest) m ++ scan r replacement (lastOf before xs) 0 rest))
    (before : Option Char) (cs : List Char) : motive before cs (scan r replacement before 0 cs) := by
  -- a match takes several characters at once, so the induction is on the length of the text
  generalize hn : cs.length = n
  induction n using Nat.strongRecOn generalizing before cs with
  | ind n ih =>
    cases cs with
    | nil => exact nil before
    | cons c rest =>
      cases h : matchAt? r ⟨0, before, c :: rest⟩ with
      | none =>
        rw [scan_of_none h]
        exact copied before c rest h (ih rest.length (by simp [← hn]) (some c) rest rfl)
      | some m =>
        obtain ⟨-, hlt, hle⟩ := bounds_of_matchAt? hr h
        rw [Nat.zero_add] at hle
        have hstop : m.stop = ((c :: rest).take m.stop).length := by
          rw [List.length_take, Nat.min_eq_left hle]
        have hne : (c :: rest).take m.stop ≠ [] := by
          intro hnil
          rw [hnil, List.length_nil] at hstop
          omega
        have hsplit := (List.take_append_drop m.stop (c :: rest)).symm
        have hlength : ((c :: rest).drop m.stop).length < n := by
          rw [List.length_drop, hn]
          simp only [List.length_cons] at hn
          omega
        generalize (c :: rest).take m.stop = xs at hstop hne hsplit
        generalize (c :: rest).drop m.stop = rest' at hsplit hlength
        rw [hsplit] at h ⊢
        rw [scan_of_some h hstop hne]
        exact replaced before m xs rest' h hstop hne (ih _ hlength _ rest' rfl)

end Steps

end ClusterMonitor.Regex

import ClusterMonitor.Proofs.Regex.Search

/-!
# Text that a pass leaves alone

* `Quiet` and `scan_append` — where no match starts, the text is copied.
* `nowhere` — a test for single characters at which no match can start.
* `SignBefore` and `quiet_of_signBefore` — matches that reach a sign before they reach a mark: none
  starts in text with neither, just before the mark.
* `Changes` and `scan_cases` — the first match that is not left alone.
* `forall_mem_scan` and `scan_ne_nil` — which characters a replaced text has.
-/

namespace ClusterMonitor.Regex

variable {r : Regex} {replacement : List Char → Match → List Char} {before : Option Char}

/-! ## Lists with marks -/

section Marks

variable {α : Type} {a b : α} {xs ys s t : List α}

/-- A list has one first mark of two. -/
theorem append_cons_ne_append_cons (hab : a ≠ b) (hb : b ∉ xs) (ha : a ∉ ys) :
    xs ++ a :: s ≠ ys ++ b :: t := by
  intro h
  rcases List.append_eq_append_iff.mp h with ⟨zs, rfl, hzs⟩ | ⟨zs, rfl, hzs⟩
  · cases zs with
    | nil => exact hab (List.cons.inj hzs).1
    | cons z zs =>
      obtain rfl := (List.cons.inj hzs).1
      simp at ha
  · cases zs with
    | nil => exact hab (List.cons.inj hzs).1.symm
    | cons z zs =>
      obtain rfl := (List.cons.inj hzs).1
      simp at hb

/-- A list is cut in one way at its first mark. -/
theorem append_cons_inj_of_notMem (hxs : a ∉ xs) (hys : a ∉ ys) (h : xs ++ a :: s = ys ++ a :: t) :
    xs = ys ∧ s = t := by
  rcases List.append_eq_append_iff.mp h with ⟨zs, rfl, hzs⟩ | ⟨zs, rfl, hzs⟩
  · cases zs with
    | nil => exact ⟨by simp, (List.cons.inj hzs).2⟩
    | cons z zs =>
      obtain rfl := (List.cons.inj hzs).1
      simp at hys
  · cases zs with
    | nil => exact ⟨by simp, (List.cons.inj hzs).2.symm⟩
    | cons z zs =>
      obtain rfl := (List.cons.inj hzs).1
      simp at hxs

/-- What has no mark starts a list if it starts what stands before a mark. -/
theorem prefix_append_cons_iff (hxs : a ∉ xs) : xs <+: ys ++ a :: t ↔ xs <+: ys := by
  refine ⟨fun h => ?_, fun h => h.trans (List.prefix_append ys _)⟩
  obtain ⟨zs, hzs⟩ := h
  rcases List.append_eq_append_iff.mp hzs with ⟨ws, hws, -⟩ | ⟨ws, rfl, hws⟩
  · exact ⟨ws, hws.symm⟩
  · cases ws with
    | nil => simp
    | cons w ws =>
      obtain rfl := (List.cons.inj hws).1
      simp at hxs

/-- What ends a list and does not have a mark of it stands behind the mark. -/
theorem suffix_of_append_cons_eq (hys : a ∉ ys) (h : s ++ a :: t = xs ++ ys) : ys <:+ t := by
  rcases List.append_eq_append_iff.mp h with ⟨zs, -, hzs⟩ | ⟨zs, -, rfl⟩
  · cases zs with
    | nil =>
      obtain rfl : a :: t = ys := hzs
      simp at hys
    | cons z zs => exact ⟨zs, (List.cons.inj hzs).2.symm⟩
  · simp at hys

/-- A list is cut in one way behind a first run. -/
theorem append_inj_of_run {p : α → Bool} (hxs : ∀ c ∈ xs, p c = true) (hys : ∀ c ∈ ys, p c = true)
    (hs : ∀ c ∈ s.head?, p c = false) (ht : ∀ c ∈ t.head?, p c = false) (h : xs ++ s = ys ++ t) :
    xs = ys ∧ s = t := by
  have hdrop : ∀ l : List α, (∀ c ∈ l.head?, p c = false) → l.dropWhile p = l := by
    intro l hl
    cases l with
    | nil => rfl
    | cons c l => rw [List.dropWhile_cons_of_neg (by simpa using hl c rfl)]
  have hcut := congrArg (List.dropWhile p) h
  rw [List.dropWhile_append_of_pos hxs, List.dropWhile_append_of_pos hys, hdrop s hs, hdrop t ht] at hcut
  rw [hcut] at h
  exact ⟨List.append_cancel_right h, hcut⟩

end Marks

/-! ## Where no match starts -/

/-- No match starts in the text, which stands before the rest. -/
def Quiet (r : Regex) : Option Char → List Char → List Char → Prop
  | _, [], _ => True
  | before, c :: xs, rest =>
    matchAt? r ⟨0, before, c :: (xs ++ rest)⟩ = none ∧ Quiet r (some c) xs rest

/-- Two quiet stretches make a quiet one. -/
theorem quiet_append {xs ys rest : List Char} (hxs : Quiet r before xs (ys ++ rest))
    (hys : Quiet r (lastOf before xs) ys rest) : Quiet r before (xs ++ ys) rest := by
  induction xs generalizing before with
  | nil => exact hys
  | cons x xs ih =>
    have hhere := hxs.1
    rw [← List.append_assoc] at hhere
    exact ⟨hhere, ih hxs.2 hys⟩

/-- A pass leaves a quiet stretch alone, and goes on behind it. -/
theorem scan_append (replacement : List Char → Match → List Char) {xs rest : List Char}
    (h : Quiet r before xs rest) :
    scan r replacement before 0 (xs ++ rest) =
      xs ++ scan r replacement (lastOf before xs) 0 rest := by
  induction xs generalizing before with
  | nil => rfl
  | cons x xs ih =>
    rw [List.cons_append, scan_of_none h.1, ih h.2]
    rfl

/-- A stretch is quiet if nothing matches anywhere in it, whatever stands before. -/
theorem quiet_of_forall {xs rest : List Char}
    (h : ∀ before ys, ys <:+ xs → ys ≠ [] → matchAt? r ⟨0, before, ys ++ rest⟩ = none) :
    Quiet r before xs rest := by
  induction xs generalizing before with
  | nil => trivial
  | cons x xs ih =>
    refine ⟨h before (x :: xs) List.suffix_rfl (List.cons_ne_nil x xs), ih fun before ys hys => ?_⟩
    exact h before ys (hys.trans (List.suffix_cons x xs))

/-- Is there no character in the text at which a match may start? -/
def nowhere (mayStart : Option Char → Char → Bool) : Option Char → List Char → Bool
  | _, [] => true
  | before, c :: xs => !mayStart before c && nowhere mayStart (some c) xs

/-- A stretch is quiet if no match may start in it. -/
theorem quiet_of_nowhere {mayStart : Option Char → Char → Bool}
    (h : ∀ before c cs m, matchAt? r ⟨0, before, c :: cs⟩ = some m → mayStart before c = true)
    {xs : List Char} (hxs : nowhere mayStart before xs = true) (rest : List Char) :
    Quiet r before xs rest := by
  induction xs generalizing before with
  | nil => trivial
  | cons x xs ih =>
    rw [nowhere, Bool.and_eq_true, Bool.not_eq_true'] at hxs
    refine ⟨?_, ih hxs.2⟩
    cases hm : matchAt? r ⟨0, before, x :: (xs ++ rest)⟩ with
    | none => rfl
    | some m =>
      rw [h before x _ m hm] at hxs
      cases hxs.1

/-- Every match reaches one of the signs before it reaches the mark. -/
def SignBefore (r : Regex) (mark : Char) (signs : List Char) : Prop :=
  ∀ before cs m, matchAt? r ⟨0, before, cs⟩ = some m →
    ∃ xs sign rest, cs = xs ++ sign :: rest ∧ mark ∉ xs ∧ sign ∈ signs

/-- A stretch up to a mark is quiet if it lacks the signs that every match has before the mark. -/
theorem quiet_of_signBefore {mark : Char} {signs : List Char} (h : SignBefore r mark signs)
    (hmark : mark ∉ signs) {xs : List Char} (hxs : ∀ sign ∈ signs, sign ∉ xs) (rest : List Char) :
    Quiet r before (xs ++ [mark]) rest := by
  refine quiet_of_forall fun before ys hys hne => ?_
  obtain ⟨zs, rfl, hzs⟩ := (List.suffix_concat_iff.mp hys).resolve_left hne
  cases hm : matchAt? r ⟨0, before, zs ++ [mark] ++ rest⟩ with
  | none => rfl
  | some m =>
    -- the match would reach a sign before the mark, where there is none
    obtain ⟨ws, sign, rest', hcs, hws, hsign⟩ := h _ _ _ hm
    have hsignNe : sign ≠ mark := fun heq => hmark (heq ▸ hsign)
    refine absurd hcs.symm ?_
    rw [List.append_assoc]
    exact append_cons_ne_append_cons hsignNe hws fun hmem => hxs sign hsign (hzs.mem hmem)

/-! ## The first change -/

/-- A text and what a pass makes of it, seen from the first match that is not settled. -/
inductive Changes (r : Regex) (replacement : List Char → Match → List Char)
    (Settled : List Char → Match → Prop) : List Char → List Char → Prop
  | intro (pre xs rest : List Char) (m : Match) (before after : Option Char)
    (matchAt : matchAt? r ⟨0, before, xs ++ rest⟩ = some m) (stop : m.stop = xs.length)
    (unsettled : ¬Settled (xs ++ rest) m) :
    Changes r replacement Settled (pre ++ (xs ++ rest))
      (pre ++ (replacement (xs ++ rest) m ++ scan r replacement after 0 rest))

/-- A change further on in a text is a change of the text. -/
theorem Changes.append {Settled : List Char → Match → Prop} {cs out : List Char}
    (h : Changes r replacement Settled cs out) (xs : List Char) :
    Changes r replacement Settled (xs ++ cs) (xs ++ out) := by
  obtain ⟨pre, ys, rest, m, before, after, hm, hstop, hunsettled⟩ := h
  have hall : Changes r replacement Settled ((xs ++ pre) ++ (ys ++ rest)) _ :=
    .intro (xs ++ pre) ys rest m before after hm hstop hunsettled
  rwa [List.append_assoc, List.append_assoc] at hall

/-- Where settled matches stay as they are, a pass changes nothing, or it changes a first match. -/
theorem scan_cases (hr : NeverEmpty r) (Settled : List Char → Match → Prop)
    (hlocal : ∀ pre cs m, Settled (pre ++ cs) (m.moved pre.length) ↔ Settled cs m)
    (hsettled : ∀ before xs rest m, matchAt? r ⟨0, before, xs ++ rest⟩ = some m →
      m.stop = xs.length → Settled (xs ++ rest) m → replacement (xs ++ rest) m = xs)
    (cs : List Char) :
    (scan r replacement none 0 cs = cs ∧ ∀ m ∈ r.matches cs, Settled cs m) ∨
      Changes r replacement Settled cs (scan r replacement none 0 cs) ∧
        ¬∀ m ∈ r.matches cs, Settled cs m := by
  -- the matches are found in the whole text, so the induction has to carry its start along
  have hfound : ∀ before cs start,
      (scan r replacement before 0 cs = cs ∧
        ∀ m ∈ found r before 0 start.length cs, Settled (start ++ cs) m) ∨
      Changes r replacement Settled cs (scan r replacement before 0 cs) ∧
        ¬∀ m ∈ found r before 0 start.length cs, Settled (start ++ cs) m := by
    intro before cs
    induction before, cs using scan_induction replacement hr with
    | nil before => exact fun start => Or.inl ⟨rfl, by simp [found]⟩
    | copied before c rest hnone ih =>
      intro start
      have hstart : start ++ c :: rest = (start ++ [c]) ++ rest := by simp
      have hlength : (start ++ [c]).length = start.length + 1 := by simp
      rw [found_of_none hnone, hstart, ← hlength]
      rcases ih (start ++ [c]) with ⟨hsame, hall⟩ | ⟨hchanges, hnot⟩
      · exact Or.inl ⟨by rw [hsame], hall⟩
      · exact Or.inr ⟨hchanges.append [c], hnot⟩
    | replaced before m xs rest hm hstop hne ih =>
      intro start
      have hstart : start ++ (xs ++ rest) = (start ++ xs) ++ rest := (List.append_assoc start xs rest).symm
      have hlength : (start ++ xs).length = start.length + xs.length := List.length_append
      rw [found_of_some hm hstop hne, List.forall_mem_cons, hlocal]
      by_cases hm' : Settled (xs ++ rest) m
      · rw [hstart, ← hlength, hsettled before xs rest m hm hstop hm']
        rcases ih (start ++ xs) with ⟨hsame, hall⟩ | ⟨hchanges, hnot⟩
        · exact Or.inl ⟨by rw [hsame], hm', hall⟩
        · exact Or.inr ⟨hchanges.append xs, fun h => hnot h.2⟩
      · exact Or.inr ⟨.intro [] xs rest m before _ hm hstop hm', fun h => hm' h.1⟩
  rw [matches_eq_found hr]
  exact hfound none cs []

/-! ## What a replaced text has -/

/-- What holds of the characters of a text, and in what replaces its matches, holds in the result. -/
theorem forall_mem_scan (hr : NeverEmpty r) {P : Char → Prop}
    (hreplacement : ∀ before xs rest m, matchAt? r ⟨0, before, xs ++ rest⟩ = some m →
      m.stop = xs.length → (∀ c ∈ xs, P c) → ∀ c ∈ replacement (xs ++ rest) m, P c)
    {cs : List Char} (hcs : ∀ c ∈ cs, P c) : ∀ c ∈ scan r replacement before 0 cs, P c := by
  induction before, cs using scan_induction replacement hr with
  | nil before => exact hcs
  | copied before c rest hnone ih =>
    rw [List.forall_mem_cons] at hcs ⊢
    exact ⟨hcs.1, ih hcs.2⟩
  | replaced before m xs rest hm hstop hne ih =>
    rw [List.forall_mem_append] at hcs ⊢
    exact ⟨hreplacement before xs rest m hm hstop hcs.1, ih hcs.2⟩

/-- A pass leaves something of a text if every replacement does. -/
theorem scan_ne_nil (hr : NeverEmpty r)
    (hreplacement : ∀ before cs m, matchAt? r ⟨0, before, cs⟩ = some m → replacement cs m ≠ [])
    {cs : List Char} (hcs : cs ≠ []) : scan r replacement before 0 cs ≠ [] := by
  induction before, cs using scan_induction replacement hr with
  | nil before => exact hcs
  | copied before c rest hnone ih => exact List.cons_ne_nil _ _
  | replaced before m xs rest hm hstop hne ih =>
    exact List.append_ne_nil_of_left_ne_nil (hreplacement before _ m hm) _

end ClusterMonitor.Regex

import ClusterMonitor.Proofs.Regex.Outcomes

/-!
# Matches and what follows them

An expression is taken apart with what follows each part as a continuation: the preferred match is the
first way through all parts that succeeds.

* `first` — the first success of what follows a match; `first_seq` and its siblings, one for each kind
  of expression.
* `Takes` — what a part of a match has taken from the text.
* `Prefers` — which characters the preferred way takes: a greedy loop takes a whole run.
* `spelled` and `choice` — words and alternatives.
* `matchAt?_eq_first` — the preferred match.
-/

namespace ClusterMonitor

open Unicode (CharSet)

namespace Regex

/-! ## The first success -/

/-- The first success of what follows a match, over the outcomes of the match in their order. -/
def first {α : Type} (r : Regex) (k : Thread → Option α) (t : Thread) : Option α :=
  (outcomes r t).findSome? k

/-- Whether it succeeds depends on the place only. -/
def PlaceOnly {α : Type} (k : Thread → Option α) : Prop :=
  ∀ u v : Thread, u.place = v.place → k u = none → k v = none

section First

variable {α : Type} {k : Thread → Option α}

theorem placeOnly_some (f : Thread → α) : PlaceOnly fun t => some (f t) := fun _ _ _ h => by cases h

/-- Changing the groups beforehand does not make success depend on them. -/
theorem PlaceOnly.onGroups (hk : PlaceOnly k) {f : Thread → Thread}
    (hf : ∀ t, (f t).place = t.place) : PlaceOnly fun t => k (f t) :=
  fun u v h => hk (f u) (f v) ((hf u).trans (h.trans (hf v).symm))

/-- Threads reached from one thread may be thinned out before what follows them. -/
theorem PlaceOnly.findSome?_distinct (hk : PlaceOnly k) {t : Thread} {ts : List Thread}
    (hts : ∀ u ∈ ts, t.place.Reaches u.place) : (distinct ts).findSome? k = ts.findSome? k :=
  Regex.findSome?_distinct fun u hu v hv hindex hnone =>
    hk u v ((hts u hu).eq_of_index (hts v hv) hindex) hnone

/-- Whether an expression can be matched, with success after it, depends on the place only. -/
theorem PlaceOnly.first (hk : PlaceOnly k) (r : Regex) : PlaceOnly (first r k) := by
  intro u v hplace hnone
  -- with other groups at the start the outcomes differ in their groups only
  unfold Regex.first at hnone ⊢
  rw [List.findSome?_eq_none_iff] at hnone ⊢
  obtain ⟨place, groups⟩ := u
  obtain ⟨place', groups'⟩ := v
  obtain rfl : place = place' := hplace
  rw [outcomes_groups, List.forall_mem_map] at hnone ⊢
  intro w hw
  exact hk ⟨w.place, w.groups ++ groups⟩ _ rfl (hnone w hw)

/-- The first success over all lists together is the first success over the lists in turn. -/
theorem findSome?_flatMap {β γ : Type} (xs : List β) (f : β → List γ) (k : γ → Option α) :
    (xs.flatMap f).findSome? k = xs.findSome? fun x => (f x).findSome? k := by
  induction xs with
  | nil => rfl
  | cons x xs ih =>
    rw [List.flatMap_cons, List.findSome?_append, List.findSome?_cons, ih]
    cases (f x).findSome? k <;> rfl

/-- Of two steps, the second one and what follows it are the continuation of the first. Dropping
threads at a place that was reached before loses no success. -/
theorem findSome?_andThen (hk : PlaceOnly k) {step next : Thread → List Thread}
    (hstep : GoesOn step) (hnext : GoesOn next) (t : Thread) :
    (andThen step next t).findSome? k =
      (step t).findSome? fun u => (next u).findSome? k := by
  have hts : ∀ u ∈ (step t).flatMap next, t.place.Reaches u.place := by
    intro u hu
    obtain ⟨v, hv, hu⟩ := List.mem_flatMap.mp hu
    exact (hstep t v hv).trans (hnext v u hu)
  rw [andThen, hk.findSome?_distinct hts, findSome?_flatMap]

theorem first_empty (t : Thread) : first .empty k t = k t := by
  simp [first, outcomes]

/-- A set needs one of its characters, and goes on behind it. -/
theorem first_set (s : CharSet) (t : Thread) :
    first (.set s) k t = match t.place.rest with
      | [] => none
      | c :: _ => if s.contains c then k { t with place := t.place.next } else none := by
  unfold first outcomes
  cases t.place.rest with
  | nil => rfl
  | cons c rest =>
    dsimp only
    split <;> simp

/-- A condition has to hold at the place, and takes nothing. -/
theorem first_look (l : Look) (t : Thread) :
    first (.look l) k t = if l.holds t.place then k t else none := by
  unfold first outcomes
  split <;> simp

/-- A sequence is its first part, continued by its second. -/
theorem first_seq (hk : PlaceOnly k) (a b : Regex) (t : Thread) :
    first (.seq a b) k t = first a (first b k) t := by
  unfold first
  rw [outcomes]
  exact findSome?_andThen hk (goesOn_outcomes a) (goesOn_outcomes b) t

/-- Of two alternatives the second is tried where the first leads nowhere. -/
theorem first_alt (hk : PlaceOnly k) (a b : Regex) (t : Thread) :
    first (.alt a b) k t = (first a k t).or (first b k t) := by
  have hts : ∀ u ∈ outcomes a t ++ outcomes b t, t.place.Reaches u.place := by
    intro u hu
    rcases List.mem_append.mp hu with hu | hu
    · exact goesOn_outcomes a t u hu
    · exact goesOn_outcomes b t u hu
  unfold first
  rw [outcomes, hk.findSome?_distinct hts, List.findSome?_append]

/-- A group hands on what its expression has matched, entered under its number. -/
theorem first_group (number : Nat) (r : Regex) (t : Thread) :
    first (.group number r) k t =
      first r (fun u => k { u with groups := (number, t.place.index, u.place.index) :: u.groups }) t := by
  unfold first
  rw [outcomes, List.findSome?_map]
  rfl

/-- A character that may be there or not, and is taken if it is. -/
theorem first_optional (hk : PlaceOnly k) (r : Regex) (t : Thread) :
    first (.repeated r 0 (some 1) true) k t = (first r k t).or (k t) := by
  have hmost : ∀ u, (atMost (outcomes r) true (1 - 0) u).findSome? k = (first r k u).or (k u) := by
    intro u
    have hts : ∀ v ∈ outcomes r u ++ [u], u.place.Reaches v.place := by
      intro v hv
      rcases List.mem_append.mp hv with hv | hv
      · exact goesOn_outcomes r u v hv
      · cases List.mem_singleton.mp hv
        exact .refl _
    -- a second round has no budget left
    have hround : atMost (outcomes r) true (1 - 0) u = distinct (outcomes r u ++ [u]) := by
      simp [atMost]
    rw [hround, hk.findSome?_distinct hts, List.findSome?_append]
    simp [first]
  unfold first
  rw [outcomes, findSome?_andThen hk ((goesOn_outcomes r).rounds 0)
    ((goesOn_outcomes r).atMost true (1 - 0))]
  simp [rounds, hmost, first]

end First

/-! ## Runs of characters -/

/-- Any number of characters of a set, as many as there are. -/
abbrev zeroOrMore (s : CharSet) : Regex := .repeated (.set s) 0 none true

/-- At least one character of a set, and as many as there are. -/
abbrev oneOrMore (s : CharSet) : Regex := .repeated (.set s) 1 none true

/-- The thread after some more characters. -/
def ahead (n : Nat) (t : Thread) : Thread := { t with place := t.place.advance n }

section Runs

variable {α : Type} {k : Thread → Option α} {s : CharSet}

theorem outcomes_set_nil {t : Thread} (h : t.place.rest = []) : outcomes (.set s) t = [] := by
  rw [outcomes, h]

/-- A set takes the next character, if it has it, or nothing. -/
theorem outcomes_set_cons {t : Thread} {c : Char} {rest : List Char}
    (h : t.place.rest = c :: rest) :
    outcomes (.set s) t = if s.contains c then [ahead 1 t] else [] := by
  rw [outcomes, h]
  rfl

theorem rest_ahead {t : Thread} {c : Char} {rest : List Char} (h : t.place.rest = c :: rest) :
    (ahead 1 t).place.rest = rest := by
  simp [ahead, Place.advance, Place.next_of_rest h]

theorem index_ahead {t : Thread} {c : Char} {rest : List Char} (h : t.place.rest = c :: rest) :
    (ahead 1 t).place.index = t.place.index + 1 := by
  simp [ahead, Place.advance, Place.next_of_rest h]

/-- Rounds of one character never come back, so it does not matter where rounds started before. -/
theorem further_set {budget seen : Nat} {t : Thread}
    (h : ∀ i, t.place.index ≤ i → seen.testBit i = false) :
    (further (outcomes (.set s)) true budget seen t).1 =
      (further (outcomes (.set s)) true budget 0 t).1 := by
  induction budget generalizing seen t with
  | zero => rfl
  | succ budget ih =>
    rw [further, further, h _ le_rfl, Nat.zero_testBit]
    cases hrest : t.place.rest with
    | nil => simp [outcomes_set_nil hrest]
    | cons c rest =>
      by_cases hc : s.contains c = true
      · -- the next round starts behind the place that is marked now
        have hbits : ∀ seen : Nat, (∀ i, t.place.index ≤ i → seen.testBit i = false) →
            (further (outcomes (.set s)) true budget (seen ||| Nat.pow 2 t.place.index)
              (ahead 1 t)).1 = (further (outcomes (.set s)) true budget 0 (ahead 1 t)).1 := by
          intro seen hseen
          refine ih fun i hi => ?_
          rw [index_ahead hrest] at hi
          rw [testBit_or_pow, hseen i (by omega), Bool.false_or, decide_eq_false_iff_not]
          omega
        have hseen := hbits seen h
        have hzero := hbits 0 fun _ _ => Nat.zero_testBit _
        simpa [outcomes_set_cons hrest, hc] using hseen.trans hzero.symm
      · simp [outcomes_set_cons hrest, hc]

/-- A loop over a set either takes a character and goes on as a loop, or stops where it is, in this
order. -/
theorem furtherRounds_set (t : Thread) :
    furtherRounds (outcomes (.set s)) true t =
      (outcomes (.set s) t).flatMap (furtherRounds (outcomes (.set s)) true) ++ [t] := by
  rw [furtherRounds, further, Nat.zero_testBit]
  cases hrest : t.place.rest with
  | nil => simp [outcomes_set_nil hrest]
  | cons c rest =>
    by_cases hc : s.contains c = true
    · have hbits : ∀ i, (ahead 1 t).place.index ≤ i →
          (0 ||| Nat.pow 2 t.place.index).testBit i = false := by
        intro i hi
        rw [index_ahead hrest] at hi
        rw [testBit_or_pow, Nat.zero_testBit, Bool.false_or, decide_eq_false_iff_not]
        omega
      have hseen : (further (outcomes (.set s)) true (rest.length + 1)
          (0 ||| Nat.pow 2 t.place.index) (ahead 1 t)).1 =
            (further (outcomes (.set s)) true (rest.length + 1) 0 (ahead 1 t)).1 := further_set hbits
      simpa [outcomes_set_cons hrest, hc, furtherRounds, rest_ahead hrest] using hseen
    · simp [outcomes_set_cons hrest, hc]

/-- A loop over a set is its further rounds, continued by what follows. -/
theorem first_zeroOrMore_eq (hk : PlaceOnly k) (t : Thread) :
    first (zeroOrMore s) k t = (furtherRounds (outcomes (.set s)) true t).findSome? k := by
  have hunfold : outcomes (zeroOrMore s) t =
      distinct ((outcomes (.set s) t).flatMap (furtherRounds (outcomes (.set s)) true) ++ [t]) := rfl
  rw [first, hunfold, ← furtherRounds_set,
    hk.findSome?_distinct ((goesOn_outcomes (.set s)).furtherRounds true t)]

/-- A greedy loop over single characters takes one more character, if it can, before it stops. -/
theorem first_zeroOrMore (hk : PlaceOnly k) (t : Thread) :
    first (zeroOrMore s) k t = match t.place.rest with
      | [] => k t
      | c :: _ => if s.contains c then (first (zeroOrMore s) k (ahead 1 t)).or (k t) else k t := by
  rw [first_zeroOrMore_eq hk, furtherRounds_set, List.findSome?_append, findSome?_flatMap]
  cases hrest : t.place.rest with
  | nil => simp [outcomes_set_nil hrest]
  | cons c rest =>
    by_cases hc : s.contains c = true
    · simp [outcomes_set_cons hrest, hc, first_zeroOrMore_eq hk]
    · simp [outcomes_set_cons hrest, hc]

/-- A loop that has to take a character takes one and goes on as a loop that need not. -/
theorem first_oneOrMore (hk : PlaceOnly k) (t : Thread) :
    first (oneOrMore s) k t = match t.place.rest with
      | [] => none
      | c :: _ => if s.contains c then first (zeroOrMore s) k (ahead 1 t) else none := by
  have hgoes := goesOn_outcomes (.set s)
  have hunfold : outcomes (oneOrMore s) t =
      andThen (rounds (outcomes (.set s)) 1) (furtherRounds (outcomes (.set s)) true) t := rfl
  rw [first, hunfold, findSome?_andThen hk (hgoes.rounds 1) (hgoes.furtherRounds true)]
  cases hrest : t.place.rest with
  | nil => simp [rounds, andThen, distinct, outcomes_set_nil hrest]
  | cons c rest =>
    by_cases hc : s.contains c = true
    · simp [rounds, andThen, distinct, outcomes_set_cons hrest, hc, first_zeroOrMore_eq hk]
    · simp [rounds, andThen, distinct, outcomes_set_cons hrest, hc]

end Runs

/-! ## What a match has taken -/

/-- The second thread is the first one after these characters. -/
structure Takes (t : Thread) (xs : List Char) (u : Thread) : Prop where
  rest : t.place.rest = xs ++ u.place.rest
  index : u.place.index = t.place.index + xs.length
  groups : u.groups = t.groups

theorem Takes.refl (t : Thread) : Takes t [] t := ⟨rfl, rfl, rfl⟩

/-- What was taken first and what was taken then were taken together. -/
theorem Takes.append {t u v : Thread} {xs ys : List Char} (h : Takes t xs u) (h' : Takes u ys v) :
    Takes t (xs ++ ys) v where
  rest := by rw [h.rest, h'.rest, List.append_assoc]
  index := by rw [h'.index, h.index, List.length_append, Nat.add_assoc]
  groups := h'.groups.trans h.groups

/-- To go ahead is to take the characters passed. -/
theorem takes_ahead (xs : List Char) {t : Thread} {rest : List Char} (h : t.place.rest = xs ++ rest) :
    Takes t xs (ahead xs.length t) where
  rest := by simp [ahead, Place.rest_advance, h]
  index := Place.index_advance (by simp [h])
  groups := rfl

section Taken

variable {s : CharSet} {t u : Thread}

/-- A set takes one character, which is in it. -/
theorem takes_of_mem_set (h : u ∈ outcomes (.set s) t) :
    ∃ c, s.contains c = true ∧ Takes t [c] u := by
  cases hrest : t.place.rest with
  | nil =>
    rw [outcomes_set_nil hrest] at h
    cases h
  | cons c rest =>
    rw [outcomes_set_cons hrest] at h
    split at h
    · rename_i hc
      cases List.mem_singleton.mp h
      exact ⟨c, hc, takes_ahead [c] hrest⟩
    · cases h

/-- All that the rounds of a loop over a set take is in the set. -/
theorem takes_of_mem_furtherRounds (h : u ∈ furtherRounds (outcomes (.set s)) true t) :
    ∃ xs, (∀ c ∈ xs, s.contains c = true) ∧ Takes t xs u := by
  -- the induction is on what is left of the text: a round takes one character of it
  generalize hn : t.place.rest.length = n
  induction n generalizing t with
  | zero =>
    rw [furtherRounds_set, outcomes_set_nil (List.length_eq_zero_iff.mp hn)] at h
    cases List.mem_singleton.mp h
    exact ⟨[], by simp, .refl _⟩
  | succ n ih =>
    rw [furtherRounds_set] at h
    rcases List.mem_append.mp h with h | h
    · obtain ⟨v, hv, hu⟩ := List.mem_flatMap.mp h
      obtain ⟨c, hc, htakes⟩ := takes_of_mem_set hv
      have hlength : v.place.rest.length = n := by
        have := congrArg List.length htakes.rest
        simp only [List.length_append, List.length_singleton] at this
        omega
      obtain ⟨xs, hxs, htakes'⟩ := ih hu hlength
      exact ⟨[c] ++ xs, by simpa using ⟨hc, hxs⟩, htakes.append htakes'⟩
    · cases List.mem_singleton.mp h
      exact ⟨[], by simp, .refl _⟩

/-- A loop over a set takes characters of the set. -/
theorem takes_of_mem_zeroOrMore (h : u ∈ outcomes (zeroOrMore s) t) :
    ∃ xs, (∀ c ∈ xs, s.contains c = true) ∧ Takes t xs u := by
  refine takes_of_mem_furtherRounds ?_
  rw [furtherRounds_set]
  exact mem_of_mem_distinct h

/-- A loop over a set that has to take something takes at least one character of the set. -/
theorem takes_of_mem_oneOrMore (h : u ∈ outcomes (oneOrMore s) t) :
    ∃ xs, xs ≠ [] ∧ (∀ c ∈ xs, s.contains c = true) ∧ Takes t xs u := by
  have hthen : u ∈ andThen (rounds (outcomes (.set s)) 1)
      (furtherRounds (outcomes (.set s)) true) t := h
  obtain ⟨v, hv, hu⟩ := mem_of_mem_andThen hthen
  obtain ⟨w, hw, hv⟩ := mem_of_mem_andThen hv
  obtain ⟨c, hc, htakes⟩ := takes_of_mem_set hw
  cases List.mem_singleton.mp hv
  obtain ⟨xs, hxs, htakes'⟩ := takes_of_mem_furtherRounds hu
  exact ⟨[c] ++ xs, by simp, by simpa using ⟨hc, hxs⟩, htakes.append htakes'⟩

/-- An optional set takes characters of the set, if any. -/
theorem takes_of_mem_optional (h : u ∈ outcomes (.repeated (.set s) 0 (some 1) true) t) :
    ∃ xs, (∀ c ∈ xs, s.contains c = true) ∧ Takes t xs u := by
  have hthen : u ∈ andThen (rounds (outcomes (.set s)) 0)
      (atMost (outcomes (.set s)) true 1) t := h
  obtain ⟨v, hv, hu⟩ := mem_of_mem_andThen hthen
  cases List.mem_singleton.mp hv
  rcases mem_of_mem_order (mem_of_mem_distinct hu) with hmore | rfl
  · obtain ⟨w, hw, hu⟩ := List.mem_flatMap.mp hmore
    obtain ⟨c, hc, htakes⟩ := takes_of_mem_set hw
    cases List.mem_singleton.mp hu
    exact ⟨[c], by simpa using hc, htakes⟩
  · exact ⟨[], by simp, .refl _⟩

/-- A condition takes nothing, and holds where it was passed. -/
theorem eq_of_mem_look {l : Look} (h : u ∈ outcomes (.look l) t) :
    u = t ∧ l.holds t.place = true := by
  rw [outcomes] at h
  split at h
  · rename_i hl
    exact ⟨List.mem_singleton.mp h, hl⟩
  · cases h

/-- An outcome of two alternatives is one of either. -/
theorem mem_of_mem_alt {a b : Regex} (h : u ∈ outcomes (.alt a b) t) :
    u ∈ outcomes a t ∨ u ∈ outcomes b t :=
  List.mem_append.mp (mem_of_mem_distinct h)

/-- The second thread is the first one after a group has matched these characters. -/
structure Captures (number : Nat) (t : Thread) (xs : List Char) (u : Thread) : Prop where
  rest : t.place.rest = xs ++ u.place.rest
  index : u.place.index = t.place.index + xs.length
  groups : u.groups = (number, t.place.index, u.place.index) :: t.groups

/-- A group captures what its expression takes. -/
theorem Takes.captures {number : Nat} {xs : List Char} (h : Takes t xs u) :
    Captures number t xs { u with groups := (number, t.place.index, u.place.index) :: u.groups } where
  rest := h.rest
  index := h.index
  groups := by rw [h.groups]

/-- An outcome of a group captures what an outcome of its expression has taken. -/
theorem captures_of_mem_group {number : Nat} {r : Regex} (h : u ∈ outcomes (.group number r) t) :
    ∃ v ∈ outcomes r t, ∀ xs, Takes t xs v → Captures number t xs u := by
  obtain ⟨v, hv, rfl⟩ := List.mem_map.mp h
  exact ⟨v, hv, fun xs hxs => hxs.captures⟩

end Taken

/-! ### Preferred ways -/

/-- The preferred way through an expression takes these characters, if what follows goes on behind
them. -/
def Prefers (r : Regex) (t : Thread) (xs : List Char) : Prop :=
  ∀ (α : Type) (k : Thread → Option α) (a : α), PlaceOnly k →
    (∀ u, Takes t xs u → k u = some a) → first r k t = some a

section Prefers

variable {s : CharSet} {t : Thread} {xs ys rest : List Char}

/-- If all goes well after the preferred way, the first success comes by it. -/
theorem Prefers.first_eq_some {α : Type} {k : Thread → Option α} {a : α} {r : Regex}
    (hr : Prefers r t xs) (hk : PlaceOnly k) (h : ∀ u, Takes t xs u → k u = some a) :
    first r k t = some a :=
  hr α k a hk h

/-- The preferred way through a sequence is that through its first part, and then through its
second. -/
theorem Prefers.seq {a b : Regex} (ha : Prefers a t xs) (hb : ∀ u, Takes t xs u → Prefers b u ys) :
    Prefers (.seq a b) t (xs ++ ys) := by
  intro α k x hk h
  rw [first_seq hk]
  exact ha.first_eq_some (hk.first b) fun u hu =>
    (hb u hu).first_eq_some hk fun v hv => h v (hu.append hv)

/-- If all goes well after the preferred way through a group, with what it captures, the first
success comes by it. -/
theorem Prefers.first_group {α : Type} {k : Thread → Option α} {a : α} {number : Nat} {r : Regex}
    (hr : Prefers r t xs) (hk : PlaceOnly k) (h : ∀ u, Captures number t xs u → k u = some a) :
    first (.group number r) k t = some a := by
  rw [Regex.first_group]
  exact hr.first_eq_some (hk.onGroups fun _ => rfl) fun u hu => h _ hu.captures

/-- A set prefers the one character that it can take. -/
theorem prefers_set {c : Char} (ht : t.place.rest = c :: rest) (hc : s.contains c = true) :
    Prefers (.set s) t [c] := by
  intro α k a hk h
  rw [first_set, ht]
  dsimp only
  rw [if_pos hc]
  exact h (ahead 1 t) (takes_ahead [c] ht)

/-- A greedy loop takes a whole run. -/
theorem prefers_zeroOrMore (ht : t.place.rest = xs ++ rest) (hxs : ∀ c ∈ xs, s.contains c = true)
    (hrest : ∀ c ∈ rest.head?, s.contains c = false) : Prefers (zeroOrMore s) t xs := by
  intro α k a hk h
  induction xs generalizing t with
  | nil =>
    rw [first_zeroOrMore hk, ht]
    cases rest with
    | nil => exact h t (.refl t)
    | cons c rest => simpa [hrest c rfl] using h t (.refl t)
  | cons c xs ih =>
    have hone : Takes t [c] (ahead 1 t) := takes_ahead [c] ht
    have hlater : first (zeroOrMore s) k (ahead 1 t) = some a :=
      ih (rest_ahead ht) (fun d hd => hxs d (List.mem_cons_of_mem c hd))
        fun u hu => h u (hone.append hu)
    rw [first_zeroOrMore hk, ht]
    simp [hxs c List.mem_cons_self, hlater]

/-- A loop prefers to take nothing where the next character is not in its set. -/
theorem prefers_zeroOrMore_nil (hrest : ∀ c ∈ t.place.rest.head?, s.contains c = false) :
    Prefers (zeroOrMore s) t [] :=
  prefers_zeroOrMore rfl (by simp) hrest

/-- A greedy loop prefers the whole run of characters in its set, up to one that is not. -/
theorem prefers_oneOrMore (hne : xs ≠ []) (ht : t.place.rest = xs ++ rest)
    (hxs : ∀ c ∈ xs, s.contains c = true) (hrest : ∀ c ∈ rest.head?, s.contains c = false) :
    Prefers (oneOrMore s) t xs := by
  intro α k a hk h
  cases xs with
  | nil => exact absurd rfl hne
  | cons c xs =>
    have hone : Takes t [c] (ahead 1 t) := takes_ahead [c] ht
    have hlater : first (zeroOrMore s) k (ahead 1 t) = some a :=
      (prefers_zeroOrMore (rest_ahead ht) (fun d hd => hxs d (List.mem_cons_of_mem c hd)) hrest)
        |>.first_eq_some hk fun u hu => h u (hone.append hu)
    rw [first_oneOrMore hk, ht]
    simp [hxs c List.mem_cons_self, hlater]

/-- An optional set is passed over where the next character is not in it. -/
theorem prefers_optional_absent (hrest : ∀ c ∈ t.place.rest.head?, s.contains c = false) :
    Prefers (.repeated (.set s) 0 (some 1) true) t [] := by
  intro α k a hk h
  have hset : first (.set s) k t = none := by
    rw [first_set]
    cases hcs : t.place.rest with
    | nil => rfl
    | cons c cs => simp [hrest c (by rw [hcs]; rfl)]
  rw [first_optional hk, hset, Option.none_or]
  exact h t (.refl t)

end Prefers

/-! ### Words -/

/-- Characters of some sets, one after another. -/
def spelled : List CharSet → Regex
  | [] => .empty
  | [s] => .set s
  | s :: rest => .seq (.set s) (spelled rest)

/-- A choice between some expressions. -/
def choice : List Regex → Regex
  | [] => .empty
  | [r] => r
  | r :: rest => .alt r (choice rest)

/-- Do the characters of a text start with one of each set? -/
def spells : List CharSet → List Char → Bool
  | [], _ => true
  | _ :: _, [] => false
  | s :: sets, c :: cs => s.contains c && spells sets cs

/-- Whether a word is spelled by a text can be told by the parts of the text. -/
theorem spells_append (sets : List CharSet) (xs ys : List Char) :
    spells sets (xs ++ ys) =
      (spells (sets.take xs.length) xs && spells (sets.drop xs.length) ys) := by
  induction xs generalizing sets with
  | nil => simp [spells]
  | cons x xs ih =>
    cases sets with
    | nil => simp [spells]
    | cons s sets => simp [spells, ih, Bool.and_assoc]

/-- A word takes as many characters as it has sets, and they spell it. -/
theorem takes_of_mem_spelled {t u : Thread} {sets : List CharSet} (h : u ∈ outcomes (spelled sets) t) :
    ∃ xs, xs.length = sets.length ∧ spells sets xs = true ∧ Takes t xs u := by
  induction sets generalizing t with
  | nil =>
    cases List.mem_singleton.mp h
    exact ⟨[], rfl, rfl, .refl _⟩
  | cons s sets ih =>
    -- the last set of a word stands alone and not before an empty rest
    have hstep : (∃ v ∈ outcomes (.set s) t, u ∈ outcomes (spelled sets) v) := by
      cases sets with
      | nil => exact ⟨u, h, List.mem_singleton_self u⟩
      | cons s' sets => exact mem_of_mem_andThen h
    obtain ⟨v, hv, hu⟩ := hstep
    obtain ⟨c, hc, htakes⟩ := takes_of_mem_set hv
    obtain ⟨xs, hlength, hxs, htakes'⟩ := ih hu
    exact ⟨c :: xs, congrArg Nat.succ hlength, by simp [spells, hc, hxs], htakes.append htakes'⟩

/-- A word that the text does not spell has no outcome. -/
theorem outcomes_spelled_eq_nil {sets : List CharSet} {t : Thread}
    (h : spells sets t.place.rest = false) : outcomes (spelled sets) t = [] := by
  refine List.eq_nil_iff_forall_not_mem.mpr fun u hu => ?_
  obtain ⟨xs, hlength, hxs, htakes⟩ := takes_of_mem_spelled hu
  rw [htakes.rest, spells_append, hlength, List.take_length, hxs, List.drop_length] at h
  simp [spells] at h

/-- An outcome of several alternatives is one of one of them. -/
theorem exists_of_mem_choice {t u : Thread} {rs : List Regex} (hrs : rs ≠ []) (h : u ∈ outcomes (choice rs) t) :
    ∃ r ∈ rs, u ∈ outcomes r t := by
  induction rs with
  | nil => exact absurd rfl hrs
  | cons r rs ih =>
    cases rs with
    | nil => exact ⟨r, List.mem_singleton_self r, h⟩
    | cons r' rs =>
      rcases mem_of_mem_alt h with h | h
      · exact ⟨r, List.mem_cons_self, h⟩
      · obtain ⟨q, hq, h⟩ := ih (List.cons_ne_nil r' rs) h
        exact ⟨q, List.mem_cons_of_mem r hq, h⟩

section Words

variable {α : Type} {k : Thread → Option α}

/-- A word is taken in one go if the text spells it, and not at all otherwise. -/
theorem first_spelled (hk : PlaceOnly k) (sets : List CharSet) (t : Thread) :
    first (spelled sets) k t =
      if spells sets t.place.rest then k (ahead sets.length t) else none := by
  induction sets generalizing t with
  | nil => simp [spelled, first_empty, spells, ahead, Place.advance]
  | cons s sets ih =>
    have hstep : first (spelled (s :: sets)) k t = first (.set s) (first (spelled sets) k) t := by
      cases sets with
      | nil =>
        have hempty : first (spelled []) k = k := funext first_empty
        rw [hempty]
        rfl
      | cons s' sets => exact first_seq hk _ _ t
    rw [hstep, first_set]
    cases hrest : t.place.rest with
    | nil => rfl
    | cons c rest =>
      have hahead : ({ t with place := t.place.next } : Thread) = ahead 1 t := rfl
      dsimp only
      rw [hahead, ih, rest_ahead hrest, spells]
      cases s.contains c <;> rfl

/-- A word that is spelled prefers its characters. -/
theorem prefers_spelled {sets : List CharSet} {t : Thread} {xs rest : List Char}
    (ht : t.place.rest = xs ++ rest) (hlength : xs.length = sets.length)
    (hxs : spells sets (xs ++ rest) = true) : Prefers (spelled sets) t xs := by
  intro α k a hk h
  rw [first_spelled hk, ht, if_pos hxs, ← hlength]
  exact h _ (takes_ahead xs ht)

/-- Several alternatives are tried in their order. -/
theorem first_choice (hk : PlaceOnly k) {rs : List Regex} (hrs : rs ≠ []) (t : Thread) :
    first (choice rs) k t = rs.findSome? fun r => first r k t := by
  induction rs with
  | nil => exact absurd rfl hrs
  | cons r rs ih =>
    cases rs with
    | nil => simp [choice]
    | cons r' rs =>
      have hchoice : choice (r :: r' :: rs) = .alt r (choice (r' :: rs)) := rfl
      rw [hchoice, first_alt hk, ih (List.cons_ne_nil r' rs)]
      cases h : first r k t <;> simp [h]

/-- The only word of some that is spelled here is taken. -/
theorem prefers_choice {rs : List Regex} {r : Regex} {t : Thread} {xs : List Char} (hr : r ∈ rs)
    (hxs : Prefers r t xs) (hothers : ∀ q ∈ rs, q = r ∨ outcomes q t = []) :
    Prefers (choice rs) t xs := by
  intro α k a hk h
  -- the first alternative that succeeds is this one, since no other has an outcome
  have hfirst := hxs.first_eq_some hk h
  rw [first_choice hk (List.ne_nil_of_mem hr)]
  cases hsome : rs.findSome? fun q => first q k t with
  | none =>
    rw [List.findSome?_eq_none_iff.mp hsome r hr] at hfirst
    cases hfirst
  | some b =>
    obtain ⟨q, hq, hb⟩ := List.exists_of_findSome?_eq_some hsome
    rcases hothers q hq with rfl | hnil
    · rw [← hb, hfirst]
    · rw [first, hnil] at hb
      cases hb

end Words

/-- The first success comes after some outcome. -/
theorem exists_of_first {α : Type} {k : Thread → Option α} {r : Regex} {t : Thread} {a : α}
    (h : first r k t = some a) : ∃ u ∈ outcomes r t, k u = some a :=
  List.exists_of_findSome?_eq_some h

/-- The preferred match is the first success of an expression that nothing follows. -/
theorem matchAt?_eq_first (r : Regex) (p : Place) :
    matchAt? r p = first r (fun t => some (⟨p.index, t.place.index, t.groups⟩ : Match)) ⟨p, []⟩ := by
  unfold matchAt? first
  cases outcomes r ⟨p, []⟩ <;> rfl

end Regex

end ClusterMonitor

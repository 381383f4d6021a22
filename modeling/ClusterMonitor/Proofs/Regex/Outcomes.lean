import ClusterMonitor.Regex.Basic
import Mathlib.Data.List.Basic
import Mathlib.Data.Nat.Bitwise

/-!
# Outcomes of a match

What the outcomes of a match depend on: the text that is left and the character before it, but
neither how far the text has come nor what other groups have matched.

* `Place.Reaches` — the places of a text that lie behind another one; all outcomes do.
* `distinct_eq` and `findSome?_distinct` — what is lost when only one thread is kept at each place.
* `moved` and `uniform_outcomes` — the outcomes from the same text, further on in another one.
-/

namespace ClusterMonitor

/-! ## Places -/

namespace Place

/-- The place behind a character, as a whole. -/
theorem next_of_rest {p : Place} {c : Char} {rest : List Char} (h : p.rest = c :: rest) :
    p.next = ⟨p.index + 1, some c, rest⟩ := by
  simp [next, h]

/-- To go ahead by a sum is to go ahead twice. -/
theorem advance_add (m n : Nat) (p : Place) : p.advance (m + n) = (p.advance m).advance n := by
  induction m generalizing p with
  | zero => rw [Nat.zero_add]; rfl
  | succ m ih => rw [Nat.succ_add]; exact ih p.next

/-- Going ahead drops as many characters. -/
theorem rest_advance (n : Nat) (p : Place) : (p.advance n).rest = p.rest.drop n := by
  induction n generalizing p with
  | zero => rfl
  | succ n ih =>
    cases h : p.rest with
    | nil => simp [advance, ih, next, h]
    | cons c rest => rw [advance, ih, next_of_rest h, List.drop_succ_cons]

/-- As long as there are characters, each step ahead counts. -/
theorem index_advance {n : Nat} {p : Place} (h : n ≤ p.rest.length) :
    (p.advance n).index = p.index + n := by
  induction n generalizing p with
  | zero => rfl
  | succ n ih =>
    cases hrest : p.rest with
    | nil => simp [hrest] at h
    | cons c rest =>
      have hnext := next_of_rest hrest
      have hle : n ≤ p.next.rest.length := by
        rw [hnext]
        simpa [hrest] using h
      rw [advance, ih hle, hnext, Nat.add_assoc, Nat.add_comm 1]

/-- The other place lies in the same text, here or further on. -/
def Reaches (p q : Place) : Prop := ∃ n ≤ p.rest.length, q = p.advance n

theorem Reaches.refl (p : Place) : p.Reaches p := ⟨0, Nat.zero_le _, rfl⟩

/-- Going ahead twice is going ahead. -/
theorem Reaches.trans {p q r : Place} (hq : p.Reaches q) (hr : q.Reaches r) : p.Reaches r := by
  obtain ⟨m, hm, rfl⟩ := hq
  obtain ⟨n, hn, rfl⟩ := hr
  rw [rest_advance, List.length_drop] at hn
  exact ⟨m + n, by omega, (advance_add m n p).symm⟩

/-- The next place is reached, even from the last one, which is its own next. -/
theorem reaches_next (p : Place) : p.Reaches p.next := by
  cases h : p.rest with
  | nil =>
    have hnext : p.next = p := by simp [next, h]
    rw [hnext]
    exact .refl p
  | cons c rest => exact ⟨1, by simp [h], rfl⟩

/-- Two places of one text with the same count are the same. -/
theorem Reaches.eq_of_index {p q q' : Place} (hq : p.Reaches q) (hq' : p.Reaches q')
    (h : q.index = q'.index) : q = q' := by
  obtain ⟨m, hm, rfl⟩ := hq
  obtain ⟨n, hn, rfl⟩ := hq'
  rw [index_advance hm, index_advance hn] at h
  rw [Nat.add_left_cancel h]

end Place

namespace Regex

/-! ## Distinct threads -/

/-- Thinning out adds no thread. -/
theorem mem_of_mem_distinctFrom {seen : Nat} {ts : List Thread} {u : Thread}
    (h : u ∈ distinctFrom seen ts) : u ∈ ts := by
  induction ts generalizing seen with
  | nil => exact h
  | cons t rest ih =>
    rw [distinctFrom] at h
    split at h
    · exact List.mem_cons_of_mem t (ih h)
    · rcases List.mem_cons.mp h with rfl | h
      · exact List.mem_cons_self
      · exact List.mem_cons_of_mem t (ih h)

/-- Thinning out begins with no place seen; lists of one thread need not be looked through. -/
theorem distinct_eq (ts : List Thread) : distinct ts = distinctFrom 0 ts := by
  match ts with
  | [] => rfl
  | [t] => simp [distinct, distinctFrom]
  | t :: u :: rest => rfl

theorem mem_of_mem_distinct {ts : List Thread} {u : Thread} (h : u ∈ distinct ts) : u ∈ ts :=
  mem_of_mem_distinctFrom (distinct_eq ts ▸ h)

/-- Each outcome of two steps comes by an outcome of the first. -/
theorem mem_of_mem_andThen {step next : Thread → List Thread} {t u : Thread}
    (h : u ∈ andThen step next t) : ∃ v ∈ step t, u ∈ next v :=
  List.mem_flatMap.mp (mem_of_mem_distinct h)

/-- To set a bit for a place changes this bit and no other. -/
theorem testBit_or_pow (seen i j : Nat) :
    (seen ||| Nat.pow 2 i).testBit j = (seen.testBit j || decide (i = j)) := by
  simp [Nat.testBit_or, Nat.testBit_two_pow]

section Distinct

variable {α : Type} {k : Thread → Option α} {ts : List Thread}

/-- A search that takes threads at one place for the same passes over those that are not kept. -/
theorem findSome?_distinctFrom {seen : Nat}
    (hsame : ∀ u ∈ ts, ∀ v ∈ ts, u.place.index = v.place.index → k u = none → k v = none)
    (hseen : ∀ u ∈ ts, seen.testBit u.place.index = true → k u = none) :
    (distinctFrom seen ts).findSome? k = ts.findSome? k := by
  induction ts generalizing seen with
  | nil => rfl
  | cons t rest ih =>
    have hrest := fun u hu v hv =>
      hsame u (List.mem_cons_of_mem t hu) v (List.mem_cons_of_mem t hv)
    rw [distinctFrom]
    split
    · rename_i hbit
      rw [List.findSome?_cons, hseen t List.mem_cons_self hbit]
      exact ih hrest fun u hu => hseen u (List.mem_cons_of_mem t hu)
    · rw [List.findSome?_cons, List.findSome?_cons]
      cases ht : k t with
      | some a => rfl
      | none =>
        refine ih hrest fun u hu hbit => ?_
        rw [testBit_or_pow, Bool.or_eq_true, decide_eq_true_eq] at hbit
        rcases hbit with hbit | hindex
        · exact hseen u (List.mem_cons_of_mem t hu) hbit
        · exact hsame t List.mem_cons_self u (List.mem_cons_of_mem t hu) hindex ht

/-- The first success is not lost by thinning out if threads at one place succeed or fail
together. -/
theorem findSome?_distinct
    (hsame : ∀ u ∈ ts, ∀ v ∈ ts, u.place.index = v.place.index → k u = none → k v = none) :
    (distinct ts).findSome? k = ts.findSome? k := by
  rw [distinct_eq]
  exact findSome?_distinctFrom hsame fun u _ hbit => by simp at hbit

end Distinct

/-- The preferred thread is always kept. -/
theorem head?_distinct (ts : List Thread) : (distinct ts).head? = ts.head? := by
  rw [distinct_eq]
  cases ts with
  | nil => rfl
  | cons t rest => simp [distinctFrom]

/-! ## Where outcomes lie -/

/-- A step that only goes on in the text. -/
def GoesOn (step : Thread → List Thread) : Prop :=
  ∀ t, ∀ u ∈ step t, t.place.Reaches u.place

section Loops

variable {step next : Thread → List Thread}

/-- If two steps go on, so do both together. -/
theorem GoesOn.andThen (hstep : GoesOn step) (hnext : GoesOn next) :
    GoesOn (andThen step next) := by
  intro t u hu
  obtain ⟨v, hv, hu⟩ := mem_of_mem_andThen hu
  exact (hstep t v hv).trans (hnext v u hu)

/-- Rounds of a step that goes on go on. -/
theorem GoesOn.rounds (hstep : GoesOn step) (n : Nat) : GoesOn (rounds step n) := by
  induction n with
  | zero =>
    intro t u hu
    cases List.mem_singleton.mp hu
    exact .refl _
  | succ n ih => exact hstep.andThen ih

/-- One more round, or none, in either order. -/
theorem mem_of_mem_order {greedy : Bool} {more : List Thread} {t u : Thread}
    (h : u ∈ if greedy then more ++ [t] else t :: more) : u ∈ more ∨ u = t := by
  cases greedy <;> simpa [or_comm] using h

/-- Up to a number of rounds of a step that goes on go on. -/
theorem GoesOn.atMost (hstep : GoesOn step) (greedy : Bool) (n : Nat) :
    GoesOn (atMost step greedy n) := by
  induction n with
  | zero =>
    intro t u hu
    cases List.mem_singleton.mp hu
    exact .refl _
  | succ n ih =>
    intro t u hu
    rcases mem_of_mem_order (mem_of_mem_distinct hu) with hmore | rfl
    · obtain ⟨v, hv, hu⟩ := List.mem_flatMap.mp hmore
      exact (hstep t v hv).trans (ih v u hu)
    · exact .refl _

/-- What a loop collects over the outcomes of a round was collected before, or is an outcome of
further rounds from one of them. -/
theorem mem_foldl_further {greedy : Bool} {budget : Nat} {vs : List Thread}
    {acc : List Thread × Nat} {u : Thread}
    (h : u ∈ (vs.foldl (fun (acc : List Thread × Nat) v =>
      let (found, seen) := further step greedy budget acc.2 v
      (acc.1 ++ found, seen)) acc).1) :
    u ∈ acc.1 ∨ ∃ v ∈ vs, ∃ seen, u ∈ (further step greedy budget seen v).1 := by
  induction vs generalizing acc with
  | nil => exact Or.inl h
  | cons v vs ih =>
    rcases ih h with hu | ⟨w, hw, seen, hu⟩
    · rcases List.mem_append.mp hu with hu | hu
      · exact Or.inl hu
      · exact Or.inr ⟨v, List.mem_cons_self, acc.2, hu⟩
    · exact Or.inr ⟨w, List.mem_cons_of_mem v hw, seen, hu⟩

/-- The further rounds of a step that goes on lie ahead: by induction on the budget. -/
theorem reaches_of_mem_further (hstep : GoesOn step) {greedy : Bool} {budget seen : Nat}
    {t u : Thread} (h : u ∈ (further step greedy budget seen t).1) : t.place.Reaches u.place := by
  induction budget generalizing seen t with
  | zero =>
    cases List.mem_singleton.mp h
    exact .refl _
  | succ budget ih =>
    rw [further] at h
    split at h
    · cases h
    · rcases mem_of_mem_order h with hmore | rfl
      · rcases mem_foldl_further hmore with hu | ⟨v, hv, seen', hu⟩
        · cases hu
        · exact (hstep t v hv).trans (ih hu)
      · exact .refl _

theorem GoesOn.furtherRounds (hstep : GoesOn step) (greedy : Bool) :
    GoesOn (furtherRounds step greedy) := fun _ _ hu => reaches_of_mem_further hstep hu

end Loops

/-- A match goes on in the text. -/
theorem goesOn_outcomes (r : Regex) : GoesOn (outcomes r) := by
  induction r with
  | empty =>
    intro t u hu
    cases List.mem_singleton.mp hu
    exact .refl _
  | set s =>
    intro t u hu
    unfold outcomes at hu
    split at hu
    · cases hu
    · split at hu
      · cases List.mem_singleton.mp hu
        exact t.place.reaches_next
      · cases hu
  | look l =>
    intro t u hu
    unfold outcomes at hu
    split at hu
    · cases List.mem_singleton.mp hu
      exact .refl _
    · cases hu
  | seq a b iha ihb => exact iha.andThen ihb
  | alt a b iha ihb =>
    intro t u hu
    rcases List.mem_append.mp (mem_of_mem_distinct hu) with hu | hu
    · exact iha t u hu
    · exact ihb t u hu
  | repeated r min max greedy ih =>
    cases max with
    | some max =>
      simp only [GoesOn, outcomes]
      exact (ih.rounds min).andThen (ih.atMost greedy (max - min))
    | none =>
      cases min with
      | zero =>
        -- a round with further ones behind it, or none at all
        intro t u hu
        rcases mem_of_mem_order (mem_of_mem_distinct hu) with hmore | rfl
        · obtain ⟨v, hv, hu⟩ := List.mem_flatMap.mp hmore
          exact (ih t v hv).trans (ih.furtherRounds greedy v u hu)
        · exact .refl _
      | succ min =>
        simp only [GoesOn, outcomes]
        exact (ih.rounds (min + 1)).andThen (ih.furtherRounds greedy)
  | group number r ih =>
    intro t u hu
    obtain ⟨v, hv, rfl⟩ := List.mem_map.mp hu
    exact ih t v hv

/-! ## Further on, and after other groups -/

/-- The same thread with more text before it, and after other groups have matched. -/
def moved (d : Nat) (g : Groups) (t : Thread) : Thread :=
  ⟨{ t.place with index := t.place.index + d },
    t.groups.map (fun e => (e.1, e.2.1 + d, e.2.2 + d)) ++ g⟩

section Moved

variable {d : Nat} {g : Groups}

/-- Places seen, all moved by a distance, together with one more. -/
theorem shiftLeft_or_pow (seen i d : Nat) :
    (seen ||| Nat.pow 2 i) <<< d = seen <<< d ||| Nat.pow 2 (i + d) := by
  have hpow : Nat.pow 2 i <<< d = Nat.pow 2 (i + d) := by simp [Nat.shiftLeft_eq, Nat.pow_add]
  rw [Nat.shiftLeft_or_distrib, hpow]

theorem testBit_shiftLeft_add (seen i d : Nat) : (seen <<< d).testBit (i + d) = seen.testBit i := by
  simp

/-- Threads are thinned out in the same way after the move, given that the places seen are moved as
well. -/
theorem distinctFrom_moved (seen : Nat) (ts : List Thread) :
    distinctFrom (seen <<< d) (ts.map (moved d g)) = (distinctFrom seen ts).map (moved d g) := by
  induction ts generalizing seen with
  | nil => rfl
  | cons t rest ih =>
    have hindex : (moved d g t).place.index = t.place.index + d := rfl
    rw [List.map_cons, distinctFrom, distinctFrom, hindex, testBit_shiftLeft_add,
      ← shiftLeft_or_pow, ih, ih]
    split <;> rfl

/-- Moving commutes with thinning out. -/
theorem distinct_moved (ts : List Thread) :
    distinct (ts.map (moved d g)) = (distinct ts).map (moved d g) := by
  have h := distinctFrom_moved (d := d) (g := g) 0 ts
  rwa [Nat.zero_shiftLeft, ← distinct_eq, ← distinct_eq] at h

/-- A step that does not depend on where it starts, nor on groups. -/
def Uniform (d : Nat) (g : Groups) (step : Thread → List Thread) : Prop :=
  ∀ t, step (moved d g t) = (step t).map (moved d g)

variable {step next : Thread → List Thread}

/-- A uniform step is uniform over a list of threads. -/
theorem Uniform.flatMap (hnext : Uniform d g next) (ts : List Thread) :
    (ts.map (moved d g)).flatMap next = (ts.flatMap next).map (moved d g) := by
  rw [List.flatMap_map, List.map_flatMap]
  exact List.flatMap_congr fun t _ => hnext t

/-- Two uniform steps make a uniform one. -/
theorem Uniform.andThen (hstep : Uniform d g step) (hnext : Uniform d g next) :
    Uniform d g (andThen step next) := by
  intro t
  rw [Regex.andThen, Regex.andThen, hstep, hnext.flatMap, distinct_moved]

/-- Rounds of a uniform step are uniform. -/
theorem Uniform.rounds (hstep : Uniform d g step) (n : Nat) : Uniform d g (rounds step n) := by
  induction n with
  | zero => exact fun t => rfl
  | succ n ih => exact hstep.andThen ih

/-- Moving does not touch the order of preference. -/
theorem order_moved (greedy : Bool) (more : List Thread) (t : Thread) :
    (if greedy then more.map (moved d g) ++ [moved d g t] else moved d g t :: more.map (moved d g)) =
      (if greedy then more ++ [t] else t :: more).map (moved d g) := by
  cases greedy <;> simp

/-- Up to a number of rounds of a uniform step are uniform. -/
theorem Uniform.atMost (hstep : Uniform d g step) (greedy : Bool) (n : Nat) :
    Uniform d g (atMost step greedy n) := by
  induction n with
  | zero => exact fun t => rfl
  | succ n ih =>
    intro t
    rw [Regex.atMost, Regex.atMost, hstep, ih.flatMap]
    exact (congrArg distinct (order_moved greedy _ t)).trans (distinct_moved _)

/-- Further rounds of a uniform step are uniform, the places passed being moved with them: by
induction on the budget. -/
theorem Uniform.further (hstep : Uniform d g step) (greedy : Bool) (budget seen : Nat)
    (t : Thread) :
    further step greedy budget (seen <<< d) (moved d g t) =
      ((further step greedy budget seen t).1.map (moved d g),
        (further step greedy budget seen t).2 <<< d) := by
  induction budget generalizing seen t with
  | zero => rfl
  | succ budget ih =>
    -- the rounds from the outcomes of one step, one after another
    have hfold : ∀ (vs : List Thread) (found : List Thread) (seen : Nat),
        (vs.map (moved d g)).foldl (fun (acc : List Thread × Nat) v =>
          let (found, seen) := Regex.further step greedy budget acc.2 v
          (acc.1 ++ found, seen)) (found.map (moved d g), seen <<< d) =
        let more := vs.foldl (fun (acc : List Thread × Nat) v =>
          let (found, seen) := Regex.further step greedy budget acc.2 v
          (acc.1 ++ found, seen)) (found, seen)
        (more.1.map (moved d g), more.2 <<< d) := by
      intro vs
      induction vs with
      | nil => exact fun found seen => rfl
      | cons v vs ihvs =>
        intro found seen
        rw [List.map_cons, List.foldl_cons, List.foldl_cons, ih]
        dsimp only
        rw [← List.map_append, ihvs]
    have hindex : (moved d g t).place.index = t.place.index + d := rfl
    have hsteps := hfold (step t) [] (seen ||| Nat.pow 2 t.place.index)
    rw [Regex.further, Regex.further, hindex, testBit_shiftLeft_add]
    split
    · rfl
    · rw [hstep, ← shiftLeft_or_pow]
      rw [List.map_nil] at hsteps
      rw [hsteps]
      exact Prod.ext (order_moved greedy _ t) rfl

/-- A loop over a uniform step is uniform. -/
theorem Uniform.furtherRounds (hstep : Uniform d g step) (greedy : Bool) :
    Uniform d g (furtherRounds step greedy) := by
  intro t
  have h := hstep.further greedy (t.place.rest.length + 1) 0 t
  rw [Nat.zero_shiftLeft] at h
  exact congrArg Prod.fst h

/-- The next place of a moved thread is the moved next place. -/
theorem next_moved (t : Thread) :
    ({ moved d g t with place := (moved d g t).place.next } : Thread) =
      moved d g { t with place := t.place.next } := by
  cases h : t.place.rest with
  | nil => simp [moved, Place.next, h]
  | cons c rest => simp [moved, Place.next, h, Nat.add_right_comm]

end Moved

/-- The outcomes of a match in a text are those in any other text that goes on alike. -/
theorem uniform_outcomes (d : Nat) (g : Groups) (r : Regex) : Uniform d g (outcomes r) := by
  induction r with
  | empty => exact fun t => rfl
  | set s =>
    intro t
    have hrest : (moved d g t).place.rest = t.place.rest := rfl
    rw [outcomes, outcomes, hrest]
    split
    · rfl
    · split
      · rw [next_moved]
        rfl
      · rfl
  | look l =>
    intro t
    have hholds : l.holds (moved d g t).place = l.holds t.place := rfl
    rw [outcomes, outcomes, hholds]
    split <;> rfl
  | seq a b iha ihb => exact iha.andThen ihb
  | alt a b iha ihb =>
    intro t
    rw [outcomes, outcomes, iha, ihb, ← List.map_append, distinct_moved]
  | repeated r min max greedy ih =>
    cases max with
    | some max =>
      simp only [Uniform, outcomes]
      exact (ih.rounds min).andThen (ih.atMost greedy (max - min))
    | none =>
      cases min with
      | zero =>
        -- a round with further ones behind it, or none at all
        intro t
        rw [outcomes, outcomes, ih, (ih.furtherRounds greedy).flatMap]
        exact (congrArg distinct (order_moved greedy _ t)).trans (distinct_moved _)
      | succ min =>
        simp only [Uniform, outcomes]
        exact (ih.rounds (min + 1)).andThen (ih.furtherRounds greedy)
  | group number r ih =>
    intro t
    rw [outcomes, outcomes, ih, List.map_map, List.map_map]
    rfl

/-- What has matched before is kept, and makes no difference. -/
theorem outcomes_groups (r : Regex) (p : Place) (g : Groups) :
    outcomes r ⟨p, g⟩ = (outcomes r ⟨p, []⟩).map fun u => ⟨u.place, u.groups ++ g⟩ := by
  have hmoved : moved 0 g = fun u => ⟨u.place, u.groups ++ g⟩ := by
    funext u
    simp [moved]
  have h := uniform_outcomes 0 g r ⟨p, []⟩
  rw [hmoved] at h
  exact h

end Regex

end ClusterMonitor

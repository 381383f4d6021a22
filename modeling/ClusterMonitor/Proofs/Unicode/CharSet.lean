import ClusterMonitor.Unicode.Word
import Mathlib.Data.List.Basic

/-!
# Members of character sets

* `inRanges_iff` — membership, where the ranges increase.
* `contains_singleton`, `contains_ofChars`, `contains_union`, `contains_negate` — members of the sets that
  operations make.
-/

namespace ClusterMonitor.Unicode

/-- The ranges increase, and none of them is empty. -/
structure Increasing (ranges : List (Nat × Nat)) : Prop where
  le : ∀ r ∈ ranges, r.1 ≤ r.2
  lt : ranges.Pairwise fun r r' => r.2 < r'.1

instance (ranges : List (Nat × Nat)) : Decidable (Increasing ranges) :=
  decidable_of_iff ((∀ r ∈ ranges, r.1 ≤ r.2) ∧ ranges.Pairwise fun r r' => r.2 < r'.1)
    ⟨fun h => ⟨h.1, h.2⟩, fun h => ⟨h.le, h.lt⟩⟩

theorem Increasing.tail {r : Nat × Nat} {rest : List (Nat × Nat)} (h : Increasing (r :: rest)) :
    Increasing rest :=
  ⟨fun r' hr' => h.le r' (List.mem_cons_of_mem r hr'), (List.pairwise_cons.mp h.lt).2⟩

/-- The first range ends before all others begin. -/
theorem Increasing.lt_of_mem {r r' : Nat × Nat} {rest : List (Nat × Nat)}
    (h : Increasing (r :: rest)) (hr' : r' ∈ rest) : r.2 < r'.1 :=
  (List.pairwise_cons.mp h.lt).1 r' hr'

namespace CharSet

/-- In increasing ranges, a code below the first range is in none of them. -/
theorem inRanges_cons {code low high : Nat} {rest : List (Nat × Nat)} :
    inRanges code ((low, high) :: rest) =
      if code < low then false else if code ≤ high then true else inRanges code rest := rfl

/-- A code lies in a list of ranges if it lies in one of them. -/
theorem inRanges_iff {code : Nat} {ranges : List (Nat × Nat)} (h : Increasing ranges) :
    inRanges code ranges = true ↔ ∃ r ∈ ranges, r.1 ≤ code ∧ code ≤ r.2 := by
  induction ranges with
  | nil => simp [inRanges]
  | cons r rest ih =>
    obtain ⟨low, high⟩ := r
    have hafter : ∀ r ∈ rest, high < r.1 := fun r hr => h.lt_of_mem hr
    have hle : low ≤ high := h.le _ List.mem_cons_self
    rw [inRanges_cons]
    simp only [List.mem_cons, exists_eq_or_imp]
    split_ifs with hlow hhigh
    · simp only [false_iff, not_or, not_exists, not_and]
      exact ⟨by omega, fun r hr h => absurd (hafter r hr) (by omega)⟩
    · exact iff_of_true rfl (Or.inl ⟨by omega, hhigh⟩)
    · rw [ih h.tail]
      exact (or_iff_right (by omega)).symm

/-- A set of one character has this one only. -/
theorem contains_singleton (c d : Char) : (singleton d).contains c = true ↔ c = d := by
  rw [contains, singleton, inRanges_cons, inRanges, ← Char.toNat_inj]
  split_ifs <;> simp <;> omega

theorem increasing_singleton (d : Char) : Increasing (singleton d).ranges :=
  ⟨by simp [singleton], by simp [singleton]⟩

/-- The gaps behind a place are the codes behind it that lie in no range. -/
theorem inRanges_gaps {code start : Nat} {ranges : List (Nat × Nat)} (h : Increasing ranges)
    (hcode : code ≤ lastCode) (hstart : ∀ r ∈ ranges, start ≤ r.1) :
    inRanges code (gaps start ranges) = (decide (start ≤ code) && !inRanges code ranges) := by
  induction ranges generalizing start with
  | nil =>
    rw [gaps]
    split_ifs with hlast
    · rw [inRanges_cons]
      split_ifs <;> simp [inRanges] <;> omega
    · simp [inRanges]
      omega
  | cons r rest ih =>
    obtain ⟨low, high⟩ := r
    have hlow : start ≤ low := hstart _ List.mem_cons_self
    have hle : low ≤ high := h.le _ List.mem_cons_self
    have hrest : inRanges code (gaps (high + 1) rest) =
        (decide (high + 1 ≤ code) && !inRanges code rest) := ih h.tail fun r hr => h.lt_of_mem hr
    rw [gaps, inRanges_cons]
    split_ifs <;> simp [inRanges_cons, hrest] <;> grind

theorem toNat_le_lastCode (c : Char) : c.toNat ≤ lastCode := by
  rcases c.valid with h | ⟨-, h⟩
  · exact Nat.le_trans (Nat.le_of_lt h) (by decide)
  · exact Nat.le_of_lt_succ h

/-- A negated set has the characters that the set does not have. -/
theorem contains_negate {s : CharSet} (h : Increasing s.ranges) (c : Char) :
    s.negate.contains c = !s.contains c := by
  rw [contains, negate, inRanges_gaps h (toNat_le_lastCode c) fun _ _ => Nat.zero_le _]
  rfl

/-! ## Unions -/

/-- Inserting a range adds its codes, and no others. -/
theorem mem_insertRange {code low high : Nat} {ranges : List (Nat × Nat)}
    (hle : ∀ r ∈ ranges, r.1 ≤ r.2) (h : low ≤ high) :
    (∃ r ∈ insertRange ranges low high, r.1 ≤ code ∧ code ≤ r.2) ↔
      (low ≤ code ∧ code ≤ high) ∨ ∃ r ∈ ranges, r.1 ≤ code ∧ code ≤ r.2 := by
  induction ranges generalizing low high with
  | nil => simp [insertRange]
  | cons r rest ih =>
    obtain ⟨a, b⟩ := r
    have hab : a ≤ b := hle _ List.mem_cons_self
    have hrest := fun r hr => hle r (List.mem_cons_of_mem (a, b) hr)
    -- before the first range, behind it, or joined with it
    rw [insertRange]
    split_ifs with hbefore hafter
    · simp
    · simp only [List.mem_cons, exists_eq_or_imp, ih hrest h]
      exact or_left_comm
    · rw [ih hrest (by omega)]
      simp only [List.mem_cons, exists_eq_or_imp, ← or_assoc]
      exact or_congr_left (by omega)

/-- What lies behind a place still does with a range that lies behind it, too. -/
theorem lt_of_mem_insertRange {place low high : Nat} {ranges : List (Nat × Nat)}
    (hranges : ∀ r ∈ ranges, place < r.1) (h : place < low) :
    ∀ r ∈ insertRange ranges low high, place < r.1 := by
  induction ranges generalizing low high with
  | nil => simpa [insertRange] using h
  | cons r rest ih =>
    obtain ⟨a, b⟩ := r
    have ha : place < a := hranges _ List.mem_cons_self
    have hrest := fun r hr => hranges r (List.mem_cons_of_mem (a, b) hr)
    rw [insertRange]
    split_ifs
    · exact List.forall_mem_cons.mpr ⟨h, hranges⟩
    · exact List.forall_mem_cons.mpr ⟨ha, ih hrest h⟩
    · exact ih hrest (by omega)

/-- Inserting a range keeps the ranges in order, as ranges that touch are joined. -/
theorem increasing_insertRange {low high : Nat} {ranges : List (Nat × Nat)}
    (hranges : Increasing ranges) (h : low ≤ high) : Increasing (insertRange ranges low high) := by
  induction ranges generalizing low high with
  | nil => exact ⟨by simpa [insertRange] using h, by simp [insertRange]⟩
  | cons r rest ih =>
    obtain ⟨a, b⟩ := r
    have hab : a ≤ b := hranges.le _ List.mem_cons_self
    have hafterRest : ∀ r ∈ rest, b < r.1 := fun r hr => hranges.lt_of_mem hr
    rw [insertRange]
    split_ifs with hbefore hafter
    · refine ⟨List.forall_mem_cons.mpr ⟨h, hranges.le⟩, List.pairwise_cons.mpr ⟨?_, hranges.lt⟩⟩
      exact List.forall_mem_cons.mpr ⟨by omega, fun r hr => by have := hafterRest r hr; omega⟩
    · have hrest := ih hranges.tail h
      refine ⟨List.forall_mem_cons.mpr ⟨hab, hrest.le⟩, List.pairwise_cons.mpr ⟨?_, hrest.lt⟩⟩
      exact lt_of_mem_insertRange hafterRest (by omega)
    · exact ih hranges.tail (by omega)

theorem increasing_insert {s : CharSet} (hs : Increasing s.ranges) {low high : Nat}
    (h : low ≤ high) : Increasing (s.insert low high).ranges :=
  increasing_insertRange hs h

/-- A set with a range inserted has the characters of both. -/
theorem contains_insert {s : CharSet} (hs : Increasing s.ranges) {low high : Nat} (h : low ≤ high)
    (c : Char) : (s.insert low high).contains c = true ↔
      (low ≤ c.toNat ∧ c.toNat ≤ high) ∨ s.contains c = true := by
  rw [contains, insert, inRanges_iff (increasing_insertRange hs h), mem_insertRange hs.le h,
    contains, inRanges_iff hs]

section Union

variable {s : CharSet} (hs : Increasing s.ranges)
include hs

/-- A union keeps its ranges in order. -/
theorem increasing_union {t : CharSet} (ht : Increasing t.ranges) :
    Increasing (s.union t).ranges := by
  obtain ⟨ranges⟩ := t
  simp only [union] at ht ⊢
  induction ranges with
  | nil => exact hs
  | cons r rest ih => exact increasing_insertRange (ih ht.tail) (ht.le r List.mem_cons_self)

/-- A union has the characters of both sets. -/
theorem contains_union {t : CharSet} (ht : Increasing t.ranges) (c : Char) :
    (s.union t).contains c = true ↔ s.contains c = true ∨ t.contains c = true := by
  have hall := increasing_union hs ht
  rw [contains, contains, contains, inRanges_iff hall, inRanges_iff hs, inRanges_iff ht]
  obtain ⟨ranges⟩ := t
  simp only [union] at ht ⊢
  induction ranges with
  | nil => simp
  | cons r rest ih =>
    have hrest : Increasing (s.union ⟨rest⟩).ranges := increasing_union hs ht.tail
    refine (mem_insertRange hrest.le (ht.le r List.mem_cons_self)).trans ?_
    simp only [List.mem_cons, exists_eq_or_imp]
    rw [or_left_comm]
    exact or_congr_right (ih ht.tail hrest)

/-- Inserting characters one by one keeps the ranges in order. -/
theorem increasing_foldl_insert (cs : List Char) :
    Increasing (cs.foldl (fun s c => s.insert c.toNat c.toNat) s).ranges := by
  induction cs generalizing s with
  | nil => exact hs
  | cons c cs ih => exact ih (increasing_insert hs (Nat.le_refl _))

theorem contains_foldl_insert (cs : List Char) (d : Char) :
    (cs.foldl (fun s c => s.insert c.toNat c.toNat) s).contains d = true ↔
      d ∈ cs ∨ s.contains d = true := by
  induction cs generalizing s with
  | nil => simp
  | cons c cs ih =>
    have hc : c.toNat ≤ d.toNat ∧ d.toNat ≤ c.toNat ↔ d = c := by
      rw [← Char.toNat_inj]
      omega
    rw [List.foldl_cons, ih (increasing_insert hs (Nat.le_refl _)), contains_insert hs (Nat.le_refl _), hc,
      List.mem_cons, ← or_assoc, or_comm (a := d ∈ cs)]

end Union

theorem increasing_ofChars (cs : List Char) : Increasing (ofChars cs).ranges :=
  increasing_foldl_insert (s := empty) (by decide) cs

/-- A set of listed characters has these only. -/
theorem contains_ofChars (cs : List Char) (c : Char) : (ofChars cs).contains c = true ↔ c ∈ cs := by
  have hempty : ¬empty.contains c = true := Bool.false_ne_true
  exact (contains_foldl_insert (s := empty) (by decide) cs c).trans (or_iff_left hempty)

end CharSet

end ClusterMonitor.Unicode

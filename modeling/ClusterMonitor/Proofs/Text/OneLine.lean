import ClusterMonitor.Decimal.Written
import ClusterMonitor.Proofs.Text.Lines

/-!
# Texts on one line

A text without a line feed stays on one line, whatever it is put together with. Numbers are written
without line feeds. A text that is made of lines, each ended by a line feed, is cut into these lines
again, and a line that brings line feeds of its own falls apart.

* `Text.OneLine` — there is no line feed in the text.
* `Text.linesOf` — what stands between the line feeds of a text.
* `Text.linesOf_join` — the lines of a text that was made of lines.
* `Decimal.oneLine_write` — floats, in every layout.
-/

namespace ClusterMonitor.Text

/-- There is no line feed in the text. -/
def OneLine (s : String) : Prop := '\n' ∉ s.toList

instance (s : String) : Decidable (OneLine s) :=
  inferInstanceAs (Decidable ('\n' ∉ s.toList))

@[simp] theorem oneLine_append (s t : String) : OneLine (s ++ t) ↔ OneLine s ∧ OneLine t := by
  simp [OneLine, not_or]

@[simp] theorem oneLine_ofList (cs : List Char) : OneLine (String.ofList cs) ↔ '\n' ∉ cs := by
  simp [OneLine]

/-! ## Lines -/

/-- What stands between the line feeds of a text. -/
def linesOf (s : String) : List String := (s.toList.splitOn '\n').map String.ofList

theorem linesOf_of_oneLine {s : String} (h : OneLine s) : linesOf s = [s] := by
  simp [linesOf, List.splitOn_eq_singleton h]

/-- A text before the first line feed goes to the first line. -/
theorem linesOf_append_of_oneLine {s : String} (h : OneLine s) (t : String) :
    ∃ first, linesOf (s ++ t) = (s ++ first) :: (linesOf t).tail := by
  unfold linesOf
  rw [String.toList_append]
  by_cases hmem : '\n' ∈ t.toList
  · obtain ⟨before, after, ht, hbefore⟩ := List.eq_append_cons_of_mem hmem
    have hnone : '\n' ∉ s.toList ++ before := by
      simpa [not_or] using ⟨h, hbefore⟩
    refine ⟨String.ofList before, ?_⟩
    rw [ht, ← List.append_assoc, List.splitOn_append_cons_self_of_not_mem hnone,
      List.splitOn_append_cons_self_of_not_mem hbefore]
    simp
  · have hnone : '\n' ∉ s.toList ++ t.toList := by
      simpa [not_or] using ⟨h, hmem⟩
    refine ⟨t, ?_⟩
    rw [List.splitOn_eq_singleton hnone, List.splitOn_eq_singleton hmem]
    simp

/-- A text made of lines is cut into what stands between the line feeds of each of them, and an empty
last line. -/
theorem linesOf_join (lines : List String) :
    linesOf (String.join (lines.map (· ++ "\n"))) = lines.flatMap linesOf ++ [""] := by
  induction lines with
  | nil => rfl
  | cons line rest ih =>
    have hfeed : (String.join ((line :: rest).map (· ++ "\n"))).toList =
        line.toList ++ '\n' :: (String.join (rest.map (· ++ "\n"))).toList := by
      simp
    unfold linesOf at ih ⊢
    rw [hfeed, List.splitOn_append_cons_self, List.map_append, ih, List.flatMap_cons,
      List.append_assoc]

/-- Lines with line feeds behind them are cut again into these lines, and nothing after the last
line feed. -/
theorem linesOf_join_of_oneLine {lines : List String} (h : ∀ line ∈ lines, OneLine line) :
    linesOf (String.join (lines.map (· ++ "\n"))) = lines ++ [""] := by
  have hself : lines.flatMap linesOf = lines := by
    rw [List.flatMap_congr fun line hline => linesOf_of_oneLine (h line hline),
      List.flatMap_singleton']
  rw [linesOf_join, hself]

/-- No piece of a list contains what the list was split at. -/
theorem notMem_of_mem_splitOn {α : Type} [BEq α] [LawfulBEq α] {separator : α} {xs piece : List α}
    (h : piece ∈ xs.splitOn separator) : separator ∉ piece := by
  by_cases hmem : separator ∈ xs
  · obtain ⟨before, after, hxs, hbefore⟩ := List.eq_append_cons_of_mem hmem
    rw [hxs, List.splitOn_append_cons_self_of_not_mem hbefore] at h
    rcases List.mem_cons.mp h with rfl | h
    · exact hbefore
    · have hshorter : after.length < xs.length := by
        simp only [hxs, List.length_append, List.length_cons]
        omega
      exact notMem_of_mem_splitOn h
  · rw [List.splitOn_eq_singleton hmem] at h
    obtain rfl := List.mem_singleton.mp h
    exact hmem
termination_by xs.length

/-- No piece has the separator in it. -/
theorem notMem_of_mem_splitLines {α : Type} [BEq α] [LawfulBEq α] {separator : α}
    {xs piece : List α} (h : piece ∈ splitLines separator xs) : separator ∉ piece := by
  rw [splitLines_eq, linesBetween, withoutEmptyEnd] at h
  split at h
  · exact notMem_of_mem_splitOn (List.dropLast_subset _ h)
  · exact notMem_of_mem_splitOn h

/-! ## Numbers -/

/-- A number is written on one line. -/
theorem oneLine_toString_nat (n : Nat) : OneLine (toString n) := by
  intro hmem
  rw [Nat.toString_eq_repr, Nat.toList_repr] at hmem
  have hdigit := Nat.isDigit_of_mem_toDigits (by decide) (by decide) hmem
  cases hdigit

theorem oneLine_toString_int (n : Int) : OneLine (toString n) := by
  rw [Int.toString_eq_repr, Int.repr_eq_if]
  split
  · exact oneLine_toString_nat n.toNat
  · exact (oneLine_append _ _).mpr ⟨by decide, oneLine_toString_nat (-n).toNat⟩

end ClusterMonitor.Text

namespace ClusterMonitor.Decimal

open Text (OneLine oneLine_append oneLine_ofList oneLine_toString_nat oneLine_toString_int)

theorem oneLine_zeros (n : Nat) : OneLine (String.ofList (List.replicate n '0')) := by
  simp [List.mem_replicate]

/-- A float without an exponent is written on one line. -/
theorem oneLine_positionalText (l : Layout) (d : Digits) : OneLine (l.positionalText d) := by
  have hdigits := oneLine_toString_nat d.digits
  have htake (n : Nat) : '\n' ∉ (toString d.digits).toList.take n :=
    fun h => hdigits (List.mem_of_mem_take h)
  have hdrop (n : Nat) : '\n' ∉ (toString d.digits).toList.drop n :=
    fun h => hdigits (List.mem_of_mem_drop h)
  unfold Layout.positionalText
  dsimp only
  split
  · cases l.pointZero <;>
      exact (oneLine_append _ _).mpr ⟨(oneLine_append _ _).mpr ⟨hdigits, oneLine_zeros _⟩, by decide⟩
  · split
    · exact (oneLine_append _ _).mpr ⟨(oneLine_append _ _).mpr
        ⟨(oneLine_ofList _).mpr (htake _), by decide⟩, (oneLine_ofList _).mpr (hdrop _)⟩
    · exact (oneLine_append _ _).mpr ⟨(oneLine_append _ _).mpr ⟨by decide, oneLine_zeros _⟩, hdigits⟩

theorem oneLine_exponentText (l : Layout) (d : Digits) : OneLine (l.exponentText d) := by
  have hdigits := oneLine_toString_nat d.digits
  have htake (n : Nat) : '\n' ∉ (toString d.digits).toList.take n :=
    fun h => hdigits (List.mem_of_mem_take h)
  have hdrop (n : Nat) : '\n' ∉ (toString d.digits).toList.drop n :=
    fun h => hdigits (List.mem_of_mem_drop h)
  have hchoice (c : Prop) [Decidable c] (s t : String) (hs : OneLine s) (ht : OneLine t) :
      OneLine (if c then s else t) := by
    split
    · exact hs
    · exact ht
  unfold Layout.exponentText
  simp only [oneLine_append, oneLine_ofList]
  refine ⟨⟨⟨⟨⟨htake 1, ?_⟩, hdrop 1⟩, by decide⟩, ?_⟩, oneLine_toString_int _⟩
  · exact hchoice _ _ _ (by decide) (by decide)
  · exact hchoice _ _ _ (by decide) (by decide)

/-- A float is written on one line by each layout whose words for what is no number are. -/
theorem oneLine_write {l : Layout} (hinfinity : OneLine l.infinity)
    (hnone : OneLine l.notANumber) (x : Float) : OneLine (l.write x) := by
  have hsign : OneLine (if isNegative x then "-" else "") := by
    split
    · decide
    · decide
  have hmagnitude (d : Digits) : OneLine (l.magnitude d) := by
    unfold Layout.magnitude
    dsimp only
    split
    · exact oneLine_positionalText l d
    · split
      · exact oneLine_positionalText l d
      · exact oneLine_exponentText l d
  unfold Layout.write
  dsimp only
  split
  · exact hnone
  · split
    · exact (oneLine_append _ _).mpr ⟨hsign, hinfinity⟩
    · exact (oneLine_append _ _).mpr ⟨hsign, hmagnitude _⟩

end ClusterMonitor.Decimal

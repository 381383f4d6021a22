import ClusterMonitor.Text.Lines
import ClusterMonitor.Text.Utf8
import Mathlib.Data.List.TakeWhile
import Mathlib.Data.String.Basic

/-!
# Lines of bytes and lines of text

A line feed is never part of a longer UTF-8 sequence, valid or not. So bytes can be cut into lines
before they are decoded or after it.

* `splitLines_eq` — lines are the pieces between separators, without an empty last one.
* `decodeLossy_append_lineFeed` — a line feed ends whatever sequence is under way before it.
* `splitOn_decodeLossy`, `linesBetween_decodeLossy` — decoding and cutting can be done in either
  order.
-/

namespace ClusterMonitor.Text

/-! ## Lines as pieces -/

section Pieces

variable {α β : Type}

/-- The pieces without an empty last one. -/
def withoutEmptyEnd (pieces : List (List α)) : List (List α) :=
  if pieces.getLast?.any List.isEmpty then pieces.dropLast else pieces

/-- The pieces between separators, without the empty one after a final separator. -/
def linesBetween [BEq α] (separator : α) (xs : List α) : List (List α) :=
  withoutEmptyEnd (xs.splitOn separator)

theorem withoutEmptyEnd_cons (piece : List α) {pieces : List (List α)} (h : pieces ≠ []) :
    withoutEmptyEnd (piece :: pieces) = piece :: withoutEmptyEnd pieces := by
  have hlast : (piece :: pieces).getLast? = pieces.getLast? := List.getLast?_cons_of_ne_nil h
  rw [withoutEmptyEnd, withoutEmptyEnd, hlast, List.dropLast_cons_of_ne_nil h]
  split <;> rfl

/-- Whether the last piece is empty does not depend on what the characters are turned into. -/
theorem withoutEmptyEnd_map {f : List α → List β} (hf : ∀ piece, (f piece).isEmpty = piece.isEmpty)
    (pieces : List (List α)) :
    withoutEmptyEnd (pieces.map f) = (withoutEmptyEnd pieces).map f := by
  have hlast : (pieces.map f).getLast?.any List.isEmpty = pieces.getLast?.any List.isEmpty := by
    rw [List.getLast?_map]
    cases pieces.getLast? with
    | none => rfl
    | some piece => exact hf piece
  rw [withoutEmptyEnd, withoutEmptyEnd, hlast]
  split
  · rw [List.map_dropLast]
  · rfl

/-- To cut off lines one after another is to cut at all separators, and to drop what is empty behind
the last. -/
theorem splitLinesFrom_eq [BEq α] (separator : α) (current xs : List α) :
    splitLinesFrom separator current xs =
      withoutEmptyEnd (xs.splitOnPPrepend (· == separator) current) := by
  induction xs generalizing current with
  | nil => cases current <;> simp [splitLinesFrom, withoutEmptyEnd]
  | cons x rest ih =>
    rw [splitLinesFrom, List.splitOnPPrepend_cons_eq_if]
    by_cases hx : x == separator
    · rw [if_pos hx, if_pos hx, withoutEmptyEnd_cons _ (List.splitOnP_ne_nil _ _), ih,
        List.splitOnPPrepend_nil_right]
    · rw [if_neg hx, if_neg hx, ih]

theorem splitLines_eq [BEq α] (separator : α) (xs : List α) :
    splitLines separator xs = linesBetween separator xs := by
  rw [splitLines, splitLinesFrom_eq, List.splitOnPPrepend_nil_right, linesBetween,
    List.splitOn_eq_splitOnP]

/-- Reading does not stop before a separator. -/
theorem not_beq_of_notMem [BEq α] [LawfulBEq α] {separator : α} {xs : List α}
    (h : separator ∉ xs) : ∀ y ∈ xs, (!(y == separator)) = true := by
  intro y hy
  simpa using fun heq : y = separator => h (heq ▸ hy)

/-- The first piece that is read is the first line with its separator, and the lines of what is left
are the other ones. -/
theorem linesBetween_of_readUntil [BEq α] [LawfulBEq α] {separator x : α} {xs piece rest : List α}
    (h : readUntil separator xs = (x :: piece, rest)) :
    linesBetween separator xs =
      dropSeparator separator (x :: piece) :: linesBetween separator rest := by
  by_cases hmem : separator ∈ xs
  · -- the first line can be cut off
    obtain ⟨line, after, rfl, hline⟩ := List.eq_append_cons_of_mem hmem
    have hkept := not_beq_of_notMem hline
    have hread : readUntil separator (line ++ separator :: after) = (line ++ [separator], after) := by
      unfold readUntil
      rw [List.takeWhile_append_of_pos hkept, List.dropWhile_append_of_pos hkept]
      simp
    obtain ⟨hpiece, rfl⟩ := Prod.mk.inj (hread.symm.trans h)
    rw [← hpiece, linesBetween, List.splitOn_append_cons_self_of_not_mem hline,
      withoutEmptyEnd_cons _ (List.splitOn_ne_nil _ _)]
    simp [dropSeparator, linesBetween]
  · have hkept := not_beq_of_notMem hmem
    have hread : readUntil separator xs = (xs, []) := by
      unfold readUntil
      rw [List.takeWhile_eq_self_iff.mpr hkept, List.dropWhile_eq_nil_iff.mpr hkept]
    obtain ⟨rfl, rfl⟩ := Prod.mk.inj (hread.symm.trans h)
    have hlast : (x :: piece).getLast? ≠ some separator :=
      fun hlast => hmem (List.mem_of_getLast? hlast)
    rw [linesBetween, List.splitOn_eq_singleton hmem]
    simp [dropSeparator, hlast, linesBetween, withoutEmptyEnd]

/-- Where nothing is read, nothing was there. -/
theorem eq_nil_of_readUntil [BEq α] {separator : α} {xs rest : List α}
    (h : readUntil separator xs = ([], rest)) : xs = [] := by
  unfold readUntil at h
  split at h
  · rename_i hrest
    have hnil := (Prod.mk.inj h).1
    rw [← List.takeWhile_append_dropWhile (p := fun x => !(x == separator)) (l := xs), hnil, hrest]
    rfl
  · simp at h

end Pieces

/-! ## Decoding up to a line feed -/

theorem decodeLossy_lineFeed_cons (bytes : List UInt8) :
    decodeLossy (0x0A :: bytes) = '\n' :: decodeLossy bytes := by
  rw [decodeLossy]
  rfl

/-- No byte after the first of a sequence is in the ASCII range. -/
theorem le_low_of_sequenceShape? {first : UInt8} {low high more : Nat}
    (h : sequenceShape? first = some (low, high, more)) : 0x80 ≤ low := by
  simp only [sequenceShape?] at h
  repeat' split at h
  all_goals cases h
  all_goals decide

/-- A line feed is never the second byte of a sequence. -/
theorem isBetween_lineFeed {first : UInt8} {low high more : Nat}
    (h : sequenceShape? first = some (low, high, more)) : isBetween low high 0x0A = false := by
  have hlow := le_low_of_sequenceShape? h
  have hfeed : (0x0A : UInt8).toNat = 10 := rfl
  simp only [isBetween, hfeed, Bool.and_eq_false_iff, decide_eq_false_iff_not]
  omega

theorem isContinuation_lineFeed : isContinuation 0x0A = false := rfl

/-- A line feed ends the sequence under way before it, and is decoded on its own. -/
theorem decodeLossy_append_lineFeed (before after : List UInt8) :
    decodeLossy (before ++ 0x0A :: after) = decodeLossy before ++ '\n' :: decodeLossy after := by
  fun_induction decodeLossy before with
  | case1 => exact decodeLossy_lineFeed_cons after
  | case2 a rest hascii ih => rw [List.cons_append, decodeLossy, if_pos hascii, ih, List.cons_append]
  | case3 a rest hascii hshape ih => simp [decodeLossy, hascii, hshape, ih]
  | case4 a hascii low high more hshape =>
    -- the line feed stands where the second byte is due
    simp [decodeLossy, hascii, hshape, isBetween_lineFeed hshape, decodeLossy_lineFeed_cons]
  | case5 a hascii low high more hshape b rest hb ih =>
    simp only [List.cons_append] at ih ⊢
    rw [decodeLossy]
    simp [hascii, hshape, hb, ih]
  | case6 a hascii low high b rest hb hshape ih =>
    rw [List.cons_append, List.cons_append, decodeLossy]
    simp [hascii, hshape, hb, ih]
  | case7 a hascii low high more hshape b hb hmore =>
    -- the line feed stands where the third byte is due
    rw [List.cons_append, List.cons_append, decodeLossy]
    simp [hascii, hshape, hb, hmore, isContinuation_lineFeed, decodeLossy_lineFeed_cons]
  | case8 a hascii low high more hshape b hb hmore c rest hc ih =>
    simp only [List.cons_append] at ih ⊢
    rw [decodeLossy]
    simp [hascii, hshape, hb, hmore, hc, ih]
  | case9 a hascii low high b hb c rest hc hshape hmore ih =>
    rw [List.cons_append, List.cons_append, List.cons_append, decodeLossy]
    simp [hascii, hshape, hb, hc, ih]
  | case10 a hascii low high more hshape b hb hmore c hc hmore' =>
    -- the line feed stands where the fourth byte is due
    rw [List.cons_append, List.cons_append, List.cons_append, decodeLossy]
    simp [hascii, hshape, hb, hmore, hc, hmore', isContinuation_lineFeed,
      decodeLossy_lineFeed_cons]
  | case11 a hascii low high more hshape b hb hmore c hc hmore' d rest hd ih =>
    simp only [List.cons_append] at ih ⊢
    rw [decodeLossy]
    simp [hascii, hshape, hb, hmore, hc, hmore', hd, ih]
  | case12 a hascii low high more hshape b hb hmore c hc hmore' d rest hd ih =>
    simp only [List.cons_append]
    rw [decodeLossy]
    simp [hascii, hshape, hb, hmore, hc, hmore', hd, ih]

/-- Only no bytes are decoded as no text. -/
theorem decodeLossy_isEmpty (bytes : List UInt8) :
    (decodeLossy bytes).isEmpty = bytes.isEmpty := by
  fun_cases decodeLossy bytes <;> rfl

/-! ## Line feeds in decoded text -/

/-- Only the code of the line feed makes a line feed. -/
theorem ofNat_ne_lineFeed {n : Nat} (h : n ≠ 10) : Char.ofNat n ≠ '\n' := by
  intro hn
  have hcode : (Char.ofNat n).toNat = 10 := congrArg Char.toNat hn
  by_cases hvalid : n.isValidChar
  · rw [Char.ofNat, dif_pos hvalid] at hcode
    exact h hcode
  · -- a number that is no code is read as the first character
    rw [Char.ofNat, dif_neg hvalid] at hcode
    cases hcode

section Codes

variable {a b : UInt8} {low high more : Nat}

/-- A sequence of two bytes has a code beyond ASCII. -/
theorem le_code_of_two (h : sequenceShape? a = some (low, high, 0)) :
    0x80 ≤ a.toNat % 32 * 64 := by
  simp only [sequenceShape?] at h
  repeat' split at h
  all_goals cases h
  omega

/-- A sequence of three bytes has a code beyond ASCII. -/
theorem le_code_of_three (h : sequenceShape? a = some (low, high, 1))
    (hb : isBetween low high b = true) : 0x80 ≤ a.toNat % 16 * 4096 + payload b * 64 := by
  simp only [isBetween, Bool.and_eq_true, decide_eq_true_eq] at hb
  simp only [sequenceShape?] at h
  simp only [payload]
  repeat' split at h
  all_goals cases h
  all_goals omega

/-- A sequence of four bytes has a code beyond ASCII. -/
theorem le_code_of_four (h : sequenceShape? a = some (low, high, more))
    (hb : isBetween low high b = true) (hmore : more ≠ 0) (hmore' : more ≠ 1) :
    0x80 ≤ a.toNat % 8 * 262144 + payload b * 4096 := by
  simp only [isBetween, Bool.and_eq_true, decide_eq_true_eq] at hb
  simp only [sequenceShape?] at h
  simp only [payload]
  repeat' split at h
  all_goals cases h
  all_goals omega

end Codes

/-- A line feed is decoded from a line feed only. -/
theorem lineFeed_notMem_decodeLossy {bytes : List UInt8} (h : 0x0A ∉ bytes) :
    '\n' ∉ decodeLossy bytes := by
  have hmark : '\n' ≠ replacementChar := by decide
  fun_induction decodeLossy bytes with
  | case1 => exact List.not_mem_nil
  | case2 a rest hascii ih =>
    simp only [List.mem_cons, not_or] at h ⊢
    have hcode : a.toNat ≠ 10 := fun hcode => h.1 (UInt8.toNat_inj.mp hcode.symm)
    exact ⟨(ofNat_ne_lineFeed hcode).symm, ih h.2⟩
  | case6 a hascii low high b rest hb hshape ih =>
    simp only [List.mem_cons, not_or] at h ⊢
    have hcode := le_code_of_two hshape
    exact ⟨(ofNat_ne_lineFeed (by omega)).symm, ih h.2.2⟩
  | case9 a hascii low high b hb c rest hc hshape hmore ih =>
    simp only [List.mem_cons, not_or] at h ⊢
    have hcode := le_code_of_three hshape (by simpa using hb)
    exact ⟨(ofNat_ne_lineFeed (by omega)).symm, ih h.2.2.2⟩
  | case12 a hascii low high more hshape b hb hmore c hc hmore' d rest hd ih =>
    simp only [List.mem_cons, not_or] at h ⊢
    have hcode := le_code_of_four hshape (by simpa using hb) hmore hmore'
    exact ⟨(ofNat_ne_lineFeed (by omega)).symm, ih h.2.2.2.2⟩
  | _ =>
    -- an invalid part, and what follows it
    simp only [List.mem_cons, not_or] at h ⊢
    grind

/-! ## Cutting and decoding -/

/-- The pieces between line feeds can be decoded one by one. -/
theorem splitOn_decodeLossy (bytes : List UInt8) :
    (decodeLossy bytes).splitOn '\n' = (bytes.splitOn 0x0A).map decodeLossy := by
  induction hlength : bytes.length using Nat.strong_induction_on generalizing bytes with
  | h length ih =>
    by_cases hmem : 0x0A ∈ bytes
    · -- the first line can be cut off on both sides
      obtain ⟨line, rest, rfl, hline⟩ := List.eq_append_cons_of_mem hmem
      have hshorter : rest.length < length := by
        rw [← hlength, List.length_append, List.length_cons]
        omega
      rw [decodeLossy_append_lineFeed, List.splitOn_append_cons_self_of_not_mem hline,
        List.splitOn_append_cons_self_of_not_mem (lineFeed_notMem_decodeLossy hline),
        List.map_cons, ih rest.length hshorter rest rfl]
    · rw [List.splitOn_eq_singleton hmem, List.map_singleton,
        List.splitOn_eq_singleton (lineFeed_notMem_decodeLossy hmem)]

/-- The lines of bytes can be decoded one by one. -/
theorem linesBetween_decodeLossy (bytes : List UInt8) :
    linesBetween '\n' (decodeLossy bytes) = (linesBetween 0x0A bytes).map decodeLossy := by
  rw [linesBetween, splitOn_decodeLossy, withoutEmptyEnd_map decodeLossy_isEmpty, linesBetween]

end ClusterMonitor.Text

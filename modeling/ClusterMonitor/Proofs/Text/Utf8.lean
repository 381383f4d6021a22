import ClusterMonitor.Text.Utf8
import Mathlib.Data.List.Basic

/-!
# Reading what was written as UTF-8

The bytes of a text are read as this text. A character takes up to four bytes; the first one tells
how many follow, and in which bounds the second one lies.

* `decodeLossy_two`, `decodeLossy_three`, `decodeLossy_four` — sequences that are read as a
  character.
* `decodeLossy_encodeChar` — the bytes of a character.
* `decode?_encode` — the bytes of a text.
-/

namespace ClusterMonitor.Text

/-! ## Sequences of bytes -/

section Sequences

variable {a b c d : UInt8} {low high : Nat}

/-- The first byte of a longer sequence is no ASCII byte. -/
theorem le_of_sequenceShape? {shape : Nat × Nat × Nat} (h : sequenceShape? a = some shape) :
    ¬ a.toNat < 0x80 := by
  intro hlow
  have hnone : sequenceShape? a = none := by
    unfold sequenceShape?
    dsimp only
    rw [if_neg (by omega), if_neg (by omega), if_neg (by omega), if_neg (by omega),
      if_neg (by omega), if_neg (by omega), if_neg (by omega)]
  rw [hnone] at h
  cases h

/-- A sequence of two bytes is decoded as one character. -/
theorem decodeLossy_two (ha : sequenceShape? a = some (low, high, 0))
    (hb : isBetween low high b = true) (rest : List UInt8) :
    decodeLossy (a :: b :: rest) =
      Char.ofNat (a.toNat % 32 * 64 + payload b) :: decodeLossy rest := by
  rw [decodeLossy, if_neg (le_of_sequenceShape? ha)]
  simp only [ha, hb, Bool.not_true, Bool.false_eq_true, if_false, if_true]

theorem decodeLossy_three (ha : sequenceShape? a = some (low, high, 1))
    (hb : isBetween low high b = true) (hc : isContinuation c = true) (rest : List UInt8) :
    decodeLossy (a :: b :: c :: rest) =
      Char.ofNat (a.toNat % 16 * 4096 + payload b * 64 + payload c) :: decodeLossy rest := by
  rw [decodeLossy, if_neg (le_of_sequenceShape? ha)]
  simp only [ha, hb, hc, Bool.not_true, Bool.false_eq_true, if_false, if_true, Nat.one_ne_zero]

theorem decodeLossy_four (ha : sequenceShape? a = some (low, high, 2))
    (hb : isBetween low high b = true) (hc : isContinuation c = true)
    (hd : isContinuation d = true) (rest : List UInt8) :
    decodeLossy (a :: b :: c :: d :: rest) =
      Char.ofNat (a.toNat % 8 * 262144 + payload b * 4096 + payload c * 64 + payload d) ::
        decodeLossy rest := by
  rw [decodeLossy, if_neg (le_of_sequenceShape? ha)]
  simp [ha, hb, hc, hd]

end Sequences

/-! ## Characters -/

theorem toNat_toUInt8 {n : Nat} (h : n < 256) : n.toUInt8.toNat = n := by
  rw [Nat.toUInt8_eq, UInt8.toNat_ofNat']
  exact Nat.mod_eq_of_lt h

/-- The bytes behind the first one are continuation bytes. -/
theorem isContinuation_toUInt8 (n : Nat) : isContinuation (0x80 + n % 64).toUInt8 = true := by
  have hn := Nat.mod_lt n (show 0 < 64 by decide)
  rw [isContinuation, isBetween, toNat_toUInt8 (by omega)]
  simp
  omega

theorem payload_toUInt8 (n : Nat) : payload (0x80 + n % 64).toUInt8 = n % 64 := by
  have hn := Nat.mod_lt n (show 0 < 64 by decide)
  rw [payload, toNat_toUInt8 (by omega)]
  omega

/-- A character is no surrogate, and there is a largest one. -/
theorem toNat_valid (c : Char) : c.toNat < 0xD800 ∨ 0xDFFF < c.toNat ∧ c.toNat < 0x110000 := c.valid

/-- The second byte of three is in the bounds that the first one sets. -/
theorem exists_shape_three {n : Nat} (hlow : 0x800 ≤ n) (hhigh : n < 0x10000)
    (hvalid : n < 0xD800 ∨ 0xDFFF < n) :
    ∃ low high, sequenceShape? (0xE0 + n / 4096).toUInt8 = some (low, high, 1) ∧
      isBetween low high (0x80 + n / 64 % 64).toUInt8 = true := by
  have ha : (0xE0 + n / 4096).toUInt8.toNat = 0xE0 + n / 4096 := toNat_toUInt8 (by omega)
  have hb : (0x80 + n / 64 % 64).toUInt8.toNat = 0x80 + n / 64 % 64 := toNat_toUInt8 (by omega)
  unfold sequenceShape? isBetween
  dsimp only
  rw [ha, hb, if_neg (by omega)]
  split
  · exact ⟨_, _, rfl, by simp; omega⟩
  split
  · exact ⟨_, _, rfl, by simp; omega⟩
  · rw [if_pos (by omega)]
    exact ⟨_, _, rfl, by simp; omega⟩

/-- The second byte of four is in the bounds that the first one sets. -/
theorem exists_shape_four {n : Nat} (hlow : 0x10000 ≤ n) (hhigh : n < 0x110000) :
    ∃ low high, sequenceShape? (0xF0 + n / 262144).toUInt8 = some (low, high, 2) ∧
      isBetween low high (0x80 + n / 4096 % 64).toUInt8 = true := by
  have ha : (0xF0 + n / 262144).toUInt8.toNat = 0xF0 + n / 262144 := toNat_toUInt8 (by omega)
  have hb : (0x80 + n / 4096 % 64).toUInt8.toNat = 0x80 + n / 4096 % 64 := toNat_toUInt8 (by omega)
  unfold sequenceShape? isBetween
  dsimp only
  rw [ha, hb, if_neg (by omega), if_neg (by omega), if_neg (by omega), if_neg (by omega)]
  split
  · exact ⟨_, _, rfl, by simp; omega⟩
  split
  · exact ⟨_, _, rfl, by simp; omega⟩
  · rw [if_pos (by omega)]
    exact ⟨_, _, rfl, by simp; omega⟩

/-- A character is decoded from its bytes, whatever bytes follow: by the number of its bytes. -/
theorem decodeLossy_encodeChar (c : Char) (rest : List UInt8) :
    decodeLossy (encodeChar c ++ rest) = c :: decodeLossy rest := by
  have hc : Char.ofNat c.toNat = c := Char.ofNat_toNat c
  have hvalid := toNat_valid c
  -- one case for each length; the bounds of the code are what `omega` puts it together with
  unfold encodeChar
  generalize c.toNat = n at hc hvalid ⊢
  dsimp only
  split
  · rw [List.singleton_append, decodeLossy, toNat_toUInt8 (by omega), if_pos ‹_›, hc]
  split
  · have ha : (0xC0 + n / 64).toUInt8.toNat = 0xC0 + n / 64 := toNat_toUInt8 (by omega)
    have hshape : sequenceShape? (0xC0 + n / 64).toUInt8 = some (0x80, 0xBF, 0) := by
      unfold sequenceShape?
      dsimp only
      rw [ha, if_pos (by omega)]
    have hvalue : (0xC0 + n / 64) % 32 * 64 + n % 64 = n := by omega
    rw [List.cons_append, List.singleton_append,
      decodeLossy_two hshape (isContinuation_toUInt8 n), ha, payload_toUInt8, hvalue, hc]
  split
  · obtain ⟨low, high, hshape, hb⟩ := exists_shape_three (n := n) (by omega) ‹_› (by omega)
    have ha : (0xE0 + n / 4096).toUInt8.toNat = 0xE0 + n / 4096 := toNat_toUInt8 (by omega)
    have hvalue : (0xE0 + n / 4096) % 16 * 4096 + n / 64 % 64 * 64 + n % 64 = n := by omega
    rw [List.cons_append, List.cons_append, List.singleton_append,
      decodeLossy_three hshape hb (isContinuation_toUInt8 n), ha, payload_toUInt8, payload_toUInt8,
      hvalue, hc]
  · obtain ⟨low, high, hshape, hb⟩ := exists_shape_four (n := n) (by omega) (by omega)
    have ha : (0xF0 + n / 262144).toUInt8.toNat = 0xF0 + n / 262144 := toNat_toUInt8 (by omega)
    have hvalue : (0xF0 + n / 262144) % 8 * 262144 + n / 4096 % 64 * 4096 + n / 64 % 64 * 64 +
        n % 64 = n := by omega
    rw [List.cons_append, List.cons_append, List.cons_append, List.singleton_append,
      decodeLossy_four hshape hb (isContinuation_toUInt8 _) (isContinuation_toUInt8 n), ha,
      payload_toUInt8, payload_toUInt8, payload_toUInt8, hvalue, hc]

/-! ## Texts -/

/-- A text is decoded from its bytes. -/
theorem decodeLossy_encode (cs : List Char) : decodeLossy (cs.flatMap encodeChar) = cs := by
  induction cs with
  | nil => rw [List.flatMap_nil, decodeLossy]
  | cons c cs ih => rw [List.flatMap_cons, decodeLossy_encodeChar, ih]

/-- The bytes of a text are read as this text. -/
theorem decode?_encode (s : String) : decode? (encode s) = some s := by
  simp only [decode?, encode, decodeLossy_encode, if_true, String.ofList_toList]

end ClusterMonitor.Text

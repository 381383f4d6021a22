import ClusterMonitor.Proofs.Json.Numbers
import ClusterMonitor.Proofs.Decode.Values

/-!
# JSON texts of values

What is read of the text that a value is written as. The readers take what they read off the front of
a text, so each lemma is about a written text with more text behind it.

1. **Strings**: each character is read back from how it is escaped.
2. **Values**: by induction on the fuel, for the three readers side by side. The length of the text
   is enough fuel.

Two limits belong to the reader, and nothing else is lost. It goes down a number of levels, and it
scales a decimal with one rounding, so that some long decimals come out next to the float that they
were written for. `reread?` says what this makes of a value, and `FloatRereads` of a float that it
comes out as it was.

* `Json.reread?` — what is read of the text of a value.
* `Json.read?_write_eq` — the reader does just this.
* `Json.read?_write_iff` — the values that are read back as they were.
-/

namespace ClusterMonitor.Json

/-! ## Strings -/

theorem hexValue?_hexChar {n : Nat} (h : n < 16) : Text.hexValue? (hexChar n) = some n := by
  decide +revert

/-- A character below the blank is written with its code. -/
theorem readEscapedUnit?_control {c : Char} (h : c.toNat < 0x20) (rest : List Char) :
    readEscapedUnit? ('0' :: '0' :: hexChar (c.toNat / 16) :: hexChar (c.toNat % 16) :: rest) =
      some (c, rest) := by
  have hzero : Text.hexValue? '0' = some 0 := by decide
  have hhigh := hexValue?_hexChar (n := c.toNat / 16) (by omega)
  have hlow := hexValue?_hexChar (n := c.toNat % 16) (by omega)
  have hunit : readUnit?
      ('0' :: '0' :: hexChar (c.toNat / 16) :: hexChar (c.toNat % 16) :: rest) =
        some (c.toNat, rest) := by
    have hcode : 16 * (c.toNat / 16) + c.toNat % 16 = c.toNat := by omega
    simp [readUnit?, hzero, hhigh, hlow, hcode]
  have hsurrogate : ¬ 0xDC00 ≤ c.toNat ∧ ¬ 0xD800 ≤ c.toNat := by omega
  simp [readEscapedUnit?, hunit, hsurrogate]

/-- Each character is read back from how it is escaped. -/
theorem readString?_escapeChar (fuel : Nat) (c : Char) (rest read : List Char) :
    readString? (fuel + 1) (escapeChar c ++ rest) read = readString? fuel rest (c :: read) := by
  unfold escapeChar
  split
  · rfl
  · rfl
  · rfl
  · rfl
  · rfl
  · rfl
  · rfl
  · split
    · rename_i hcontrol
      simp [readString?, readEscapedUnit?_control hcontrol]
    · rename_i hquote hbackslash _ _ _ _ _ hcontrol
      have hplain : ¬ (c.toNat < 0x20 ∨ c = '\\') := by
        rintro (h | h)
        · exact hcontrol h
        · exact hbackslash h
      rw [List.cons_append, List.nil_append, readString?.eq_def]
      -- neither the end of the string nor an escape begins with this character
      split
      · rename_i heq
        exact absurd (List.cons.inj heq).1 hquote
      · rename_i heq
        exact absurd (List.cons.inj heq).1 hbackslash
      · rename_i hfuel heq
        cases hfuel
        cases heq
        rw [if_neg hplain]
      · rename_i hlast
        exact absurd rfl (hlast _ _ _ rfl)

/-- Characters are read back one after another, up to the quote that closes the string. -/
theorem readString?_escaped (s : List Char) {fuel : Nat} (hfuel : s.length ≤ fuel)
    (rest read : List Char) :
    readString? fuel (s.flatMap escapeChar ++ '"' :: rest) read =
      some (String.ofList (read.reverse ++ s), rest) := by
  induction s generalizing fuel read with
  | nil => simp [readString?]
  | cons c s ih =>
    obtain ⟨fuel, rfl⟩ := Nat.exists_eq_add_one_of_ne_zero (Nat.ne_zero_of_lt hfuel)
    rw [List.flatMap_cons, List.append_assoc, readString?_escapeChar,
      ih (Nat.le_of_succ_le_succ hfuel)]
    simp

/-- No character is written as nothing. -/
theorem escapeChar_ne_nil (c : Char) : escapeChar c ≠ [] := by
  unfold escapeChar
  split <;> simp
  split <;> simp

/-- Escaping makes no text shorter, so that its length is enough fuel for what it stands for. -/
theorem length_le_length_escaped (s : List Char) : s.length ≤ (s.flatMap escapeChar).length := by
  induction s with
  | nil => exact Nat.le_refl _
  | cons c s ih =>
    have hc := List.length_pos_of_ne_nil (escapeChar_ne_nil c)
    rw [List.flatMap_cons, List.length_append, List.length_cons]
    omega

theorem toList_quote (s : String) :
    (quote s).toList = '"' :: (s.toList.flatMap escapeChar ++ ['"']) := by
  simp [quote]

/-- A string is read back behind its opening quote. -/
theorem readString?_quote (s : String) (rest : List Char) :
    ∃ body, (quote s).toList ++ rest = '"' :: body ∧
      readString? (body.length + 1) body [] = some (s, rest) := by
  refine ⟨s.toList.flatMap escapeChar ++ '"' :: rest, by simp [toList_quote], ?_⟩
  have hlength := length_le_length_escaped s.toList
  rw [readString?_escaped s.toList (by rw [List.length_append]; omega)]
  simp

/-! ## What is read of a value -/

mutual

/-- What is read of the text of a value by a reader that goes down so many levels. Each float is the
one that the reader makes of its text. Nothing is read if an array or an object stands too deep, or if
the text of a float is taken for too large. -/
def reread? (depth : Nat) : Value → Option Value
  | .float x => (rereadFloat? x).map .float
  | .array items => if depth = 0 then none else (rereadItems? (depth - 1) items).map .array
  | .object members =>
    if depth = 0 then none else (rereadMembers? (depth - 1) members).map .object
  | v => some v

/-- The same for every item. -/
def rereadItems? (depth : Nat) : List Value → Option (List Value)
  | [] => some []
  | v :: rest => (reread? depth v).bind fun w => (rereadItems? depth rest).map (w :: ·)

/-- The same for every member, under its key. -/
def rereadMembers? (depth : Nat) : List (String × Value) → Option (List (String × Value))
  | [] => some []
  | (key, v) :: rest =>
    (reread? depth v).bind fun w => (rereadMembers? depth rest).map ((key, w) :: ·)

end

/-- A float is read back from its own text. The reader may miss a float with a long decimal by one
place. -/
def FloatRereads : Value → Prop
  | .float x => readNumber? (Decimal.Layout.json.write x).toList = some (.float x, [])
  | _ => True

theorem wholeFloat?_eq_some_iff {read : Option (Value × List Char)} {x : Float} :
    wholeFloat? read = some x ↔ read = some (.float x, []) := by
  unfold wholeFloat?
  split
  · simp
  · rename_i hread
    exact iff_of_false nofun (hread x)

theorem floatRereads_iff {x : Float} : FloatRereads (.float x) ↔ rereadFloat? x = some x :=
  wholeFloat?_eq_some_iff.symm

instance : DecidablePred FloatRereads
  | .float _ => decidable_of_iff _ floatRereads_iff.symm
  | .null | .bool _ | .int _ | .string _ | .array _ | .object _ => .isTrue trivial

mutual

/-- Nothing is read of a text that is nested too deep. -/
theorem depth_le_of_reread? : ∀ {v w : Value} {depth : Nat}, reread? depth v = some w →
    (Node.ofValue v).depth ≤ depth
  | .null, _, _, _ | .bool _, _, _, _ | .int _, _, _, _ | .float _, _, _, _ | .string _, _, _, _ =>
    Nat.zero_le _
  | .array items, _, depth, h => by
    rw [reread?] at h
    split at h
    · cases h
    · obtain ⟨read, hread, -⟩ := Option.map_eq_some_iff.mp h
      have := depth_le_of_rereadItems? hread
      rw [Node.ofValue, Node.depth]
      omega
  | .object members, _, depth, h => by
    rw [reread?] at h
    split at h
    · cases h
    · obtain ⟨read, hread, -⟩ := Option.map_eq_some_iff.mp h
      have := depth_le_of_rereadMembers? hread
      rw [Node.ofValue, Node.depth]
      omega

theorem depth_le_of_rereadItems? : ∀ {items read : List Value} {depth : Nat},
    rereadItems? depth items = some read → Node.depthOfItems (Node.ofItems items) ≤ depth
  | [], _, _, _ => Nat.zero_le _
  | v :: rest, _, depth, h => by
    obtain ⟨w, hw, hrest⟩ := Option.bind_eq_some_iff.mp h
    obtain ⟨more, hmore, -⟩ := Option.map_eq_some_iff.mp hrest
    rw [Node.ofItems, Node.depthOfItems]
    exact max_le (depth_le_of_reread? hw) (depth_le_of_rereadItems? hmore)

theorem depth_le_of_rereadMembers? : ∀ {members read : Dict Value} {depth : Nat},
    rereadMembers? depth members = some read →
      Node.depthOfMembers (Node.ofMembers members) ≤ depth
  | [], _, _, _ => Nat.zero_le _
  | (key, v) :: rest, _, depth, h => by
    obtain ⟨w, hw, hrest⟩ := Option.bind_eq_some_iff.mp h
    obtain ⟨more, hmore, -⟩ := Option.map_eq_some_iff.mp hrest
    rw [Node.ofMembers, Node.depthOfMembers]
    exact max_le (depth_le_of_reread? hw) (depth_le_of_rereadMembers? hmore)

end

mutual

/-- If it is not nested too deep, a value comes out as it was just if each of its floats does. -/
theorem reread?_eq_self_iff : ∀ {v : Value} {depth : Nat}, (Node.ofValue v).depth ≤ depth →
    (reread? depth v = some v ↔ v.AllScalars FloatRereads)
  | .null, _, _ | .bool _, _, _ | .int _, _, _ | .string _, _, _ => iff_of_true rfl trivial
  | .float x, _, _ => by
    refine Iff.trans ?_ floatRereads_iff.symm
    simp [reread?]
  | .array items, depth, h => by
    rw [Node.ofValue, Node.depth] at h
    have hitems : rereadItems? (depth - 1) items = some items ↔ _ :=
      rereadItems?_eq_self_iff (by omega)
    rw [reread?, if_neg (by omega), Value.AllScalars, ← hitems]
    simp
  | .object members, depth, h => by
    rw [Node.ofValue, Node.depth] at h
    have hmembers : rereadMembers? (depth - 1) members = some members ↔ _ :=
      rereadMembers?_eq_self_iff (by omega)
    rw [reread?, if_neg (by omega), Value.AllScalars, ← hmembers]
    simp

theorem rereadItems?_eq_self_iff : ∀ {items : List Value} {depth : Nat},
    Node.depthOfItems (Node.ofItems items) ≤ depth →
      (rereadItems? depth items = some items ↔ Value.AllScalarsOfItems FloatRereads items)
  | [], _, _ => iff_of_true rfl trivial
  | v :: rest, depth, h => by
    rw [Node.ofItems, Node.depthOfItems, max_le_iff] at h
    rw [Value.AllScalarsOfItems, ← reread?_eq_self_iff h.1, ← rereadItems?_eq_self_iff h.2,
      rereadItems?]
    simp [Option.bind_eq_some_iff]

theorem rereadMembers?_eq_self_iff : ∀ {members : Dict Value} {depth : Nat},
    Node.depthOfMembers (Node.ofMembers members) ≤ depth →
      (rereadMembers? depth members = some members ↔
        Value.AllScalarsOfMembers FloatRereads members)
  | [], _, _ => iff_of_true rfl trivial
  | (key, v) :: rest, depth, h => by
    rw [Node.ofMembers, Node.depthOfMembers, max_le_iff] at h
    rw [Value.AllScalarsOfMembers, ← reread?_eq_self_iff h.1, ← rereadMembers?_eq_self_iff h.2,
      rereadMembers?]
    simp [Option.bind_eq_some_iff]

end

/-! ## The start of a value -/

theorem skipBlanks_cons {c : Char} (h : isBlank c = false) (cs : List Char) :
    skipBlanks (c :: cs) = c :: cs := by
  simp [skipBlanks, h]

/-- No other character begins like a number. -/
theorem BeginsNumber.exists_cons {cs : List Char} (h : BeginsNumber cs) :
    ∃ c rest, cs = c :: rest ∧ isBlank c = false ∧
      ∀ b, b ≠ '-' → b.isDigit = false → c ≠ b := by
  obtain ⟨c, rest, rfl, hc⟩ := h
  have hne (b : Char) (hminus : b ≠ '-') (hdigit : b.isDigit = false) : c ≠ b := by
    rintro rfl
    rcases hc with hc | hc
    · exact hminus hc
    · exact Bool.false_ne_true (hdigit.symm.trans hc)
  refine ⟨c, rest, rfl, ?_, hne⟩
  simp [isBlank, hne ' ' (by decide) (by decide), hne '\n' (by decide) (by decide),
    hne '\t' (by decide) (by decide), hne '\r' (by decide) (by decide)]

/-- A value that begins like a number is read as one. -/
theorem readValue?_number {cs : List Char} (h : BeginsNumber cs) (fuel depth : Nat) :
    readValue? (fuel + 1) depth cs = readNumber? cs := by
  obtain ⟨c, rest, rfl, hblank, hne⟩ := h.exists_cons
  rw [readValue?, skipBlanks_cons hblank]
  -- no other kind of value begins like a number
  split
  iterate 6
    rename_i heq
    exact absurd (List.cons.inj heq).1 (hne _ (by decide) (by decide))
  rfl

/-- A written value begins neither with a blank nor with a closing bracket. -/
theorem exists_write_eq_cons {v : Value} (h : v.Storable) :
    ∃ c rest, (write v).toList = c :: rest ∧ isBlank c = false ∧ c ≠ ']' := by
  have hnumber (hv : BeginsNumber (write v).toList) :
      ∃ c rest, (write v).toList = c :: rest ∧ isBlank c = false ∧ c ≠ ']' := by
    obtain ⟨c, rest, hc, hblank, hne⟩ := hv.exists_cons
    exact ⟨c, rest, hc, hblank, hne ']' (by decide) (by decide)⟩
  cases v with
  | null => exact ⟨'n', _, rfl, by decide, by decide⟩
  | bool b =>
    cases b with
    | false => exact ⟨'f', _, rfl, by decide, by decide⟩
    | true => exact ⟨'t', _, rfl, by decide, by decide⟩
  | int n => exact hnumber (beginsNumber_of_readNumber? (readNumber?_int h.fits))
  | float x => exact hnumber (beginsNumber_float h.fits)
  | string s => exact ⟨'"', _, toList_quote s, by decide, by decide⟩
  | array items => exact ⟨'[', _, by simp [write]; rfl, by decide, by decide⟩
  | object members => exact ⟨'\x7b', _, by simp [write]; rfl, by decide, by decide⟩

/-- Written items begin like the first of them. -/
theorem exists_writeItems_eq_cons {v : Value} (h : v.Storable) (items : List Value) :
    ∃ c rest, (writeItems (v :: items)).toList = c :: rest ∧ isBlank c = false ∧ c ≠ ']' := by
  obtain ⟨c, rest, hc, hne⟩ := exists_write_eq_cons h
  cases items with
  | nil => exact ⟨c, rest, hc, hne⟩
  | cons w items =>
    refine ⟨c, rest ++ ',' :: (writeItems (w :: items)).toList, ?_, hne⟩
    simp [writeItems, hc]

/-- Written members begin with the quote of the first key. -/
theorem exists_writeMembers_eq_cons (m : String × Value) (members : Dict Value) :
    ∃ rest, (writeMembers (m :: members)).toList = '"' :: rest := by
  obtain ⟨key, v⟩ := m
  cases members with
  | nil => exact ⟨_, by simp only [writeMembers, String.toList_append, toList_quote]; rfl⟩
  | cons next members =>
    exact ⟨_, by simp only [writeMembers, String.toList_append, toList_quote]; rfl⟩

/-! ## Written values -/

/-- What the readers make of written values within this fuel. -/
structure ReadsWritten (fuel : Nat) : Prop where
  value : ∀ {v : Value} {rest : List Char}, v.Storable → (write v).toList.length ≤ fuel →
    EndsNumber rest → ∀ depth : Nat,
      readValue? fuel depth ((write v).toList ++ rest) = (reread? depth v).map fun w => (w, rest)
  items : ∀ {v : Value} {items : List Value}, (∀ w ∈ v :: items, w.Storable) →
    (writeItems (v :: items)).toList.length < fuel → ∀ (depth : Nat) (read : List Value)
      (rest : List Char), readItems? fuel depth ((writeItems (v :: items)).toList ++ ']' :: rest) read =
        (rereadItems? depth (v :: items)).map fun more => (.array (read.reverse ++ more), rest)
  members : ∀ {m : String × Value} {members : Dict Value}, (∀ e ∈ m :: members, e.2.Storable) →
    (writeMembers (m :: members)).toList.length < fuel → ∀ (depth : Nat) (read : Dict Value)
      (rest : List Char), Dict.Ordered (read ++ m :: members) →
        readMembers? fuel depth ((writeMembers (m :: members)).toList ++ '\x7d' :: rest) read =
          (rereadMembers? depth (m :: members)).map fun more => (.object (read ++ more), rest)

/-- Whether entries are in order does not depend on their values. -/
theorem ordered_of_reread {key : String} {v w : Value} {read members : Dict Value}
    (h : Dict.Ordered (read ++ (key, v) :: members)) :
    Dict.Ordered (read ++ (key, w) :: members) := by
  rw [Dict.ordered_iff_keys] at h ⊢
  simpa [Dict.keys] using h

section Step

variable {fuel : Nat} (ih : ReadsWritten fuel)

include ih

/-- A written value is read within one more step of fuel. -/
theorem readValue?_write_succ {v : Value} {rest : List Char} (h : v.Storable)
    (hfuel : (write v).toList.length ≤ fuel + 1) (hrest : EndsNumber rest) (depth : Nat) :
    readValue? (fuel + 1) depth ((write v).toList ++ rest) =
      (reread? depth v).map fun w => (w, rest) := by
  cases v with
  | null => rfl
  | bool b => cases b <;> rfl
  | int n =>
    have hread := readNumber?_int h.fits
    have hnumber := beginsNumber_of_readNumber? hread
    exact (readValue?_number (hnumber.append rest) fuel depth).trans (readNumber?_append hrest hread)
  | float x =>
    have hnumber := beginsNumber_float h.fits
    have hread := readNumber?_float h.fits hrest
    rw [reread?, Option.map_map]
    exact (readValue?_number (hnumber.append rest) fuel depth).trans hread
  | string s =>
    obtain ⟨body, hbody, hread⟩ := readString?_quote s rest
    have htext : (write (.string s)).toList ++ rest = '"' :: body := hbody
    rw [htext, readValue?, skipBlanks_cons (by decide)]
    simp [hread, reread?]
  | array items =>
    cases items with
    | nil =>
      have htext : (write (.array [])).toList ++ rest = '[' :: ']' :: rest := rfl
      rw [htext, readValue?, skipBlanks_cons (by decide)]
      by_cases hdepth : depth = 0 <;>
        simp [hdepth, skipBlanks_cons (c := ']') (by decide), reread?, rereadItems?]
    | cons v items =>
      have hitems := Value.storable_array.mp h
      have htext : (write (.array (v :: items))).toList =
          '[' :: ((writeItems (v :: items)).toList ++ [']']) := by
        simp [write]
      rw [htext, List.length_cons, List.length_append, List.length_singleton] at hfuel
      have hread := ih.items hitems (by omega) (depth - 1) [] rest
      -- no item begins with the closing bracket
      obtain ⟨c, body, hbody, hblank, hne⟩ :=
        exists_writeItems_eq_cons (hitems v List.mem_cons_self) items
      rw [htext, List.cons_append, List.append_assoc, List.singleton_append, readValue?,
        skipBlanks_cons (by decide)]
      rw [hbody, List.cons_append] at hread ⊢
      by_cases hdepth : depth = 0
      · simp [hdepth, reread?]
      · simp [hdepth, skipBlanks_cons hblank, hne, hread, reread?, Function.comp_def]
  | object members =>
    obtain ⟨hordered, hmembers⟩ := Value.storable_object.mp h
    cases members with
    | nil =>
      have htext : (write (.object [])).toList ++ rest = '\x7b' :: '\x7d' :: rest := rfl
      rw [htext, readValue?, skipBlanks_cons (by decide)]
      by_cases hdepth : depth = 0 <;>
        simp [hdepth, skipBlanks_cons (c := '\x7d') (by decide), reread?, rereadMembers?]
    | cons m members =>
      have htext : (write (.object (m :: members))).toList =
          '\x7b' :: ((writeMembers (m :: members)).toList ++ ['\x7d']) := by
        simp [write]
      rw [htext, List.length_cons, List.length_append, List.length_singleton] at hfuel
      have hread := ih.members hmembers (by omega) (depth - 1) [] rest hordered
      -- members begin with a quotation mark, and not with the closing brace
      obtain ⟨body, hbody⟩ := exists_writeMembers_eq_cons m members
      rw [htext, List.cons_append, List.append_assoc, List.singleton_append, readValue?,
        skipBlanks_cons (by decide)]
      rw [hbody, List.cons_append] at hread ⊢
      by_cases hdepth : depth = 0
      · simp [hdepth, reread?]
      · simp [hdepth, skipBlanks_cons (c := '"') (by decide), hread, reread?, Function.comp_def]

/-- Written items are read up to the closing bracket, each behind those that were read before. -/
theorem readItems?_writeItems_succ {v : Value} {items : List Value}
    (h : ∀ w ∈ v :: items, w.Storable)
    (hfuel : (writeItems (v :: items)).toList.length < fuel + 1) (depth : Nat) (read : List Value)
    (rest : List Char) :
    readItems? (fuel + 1) depth ((writeItems (v :: items)).toList ++ ']' :: rest) read =
      (rereadItems? depth (v :: items)).map fun more => (.array (read.reverse ++ more), rest) := by
  obtain ⟨hv, hitems⟩ := List.forall_mem_cons.mp h
  cases items with
  | nil =>
    have hread := ih.value hv (Nat.le_of_lt_succ hfuel) (endsNumber_bracket rest) depth
    simp only [writeItems, readItems?, hread]
    cases hw : reread? depth v with
    | none => simp [rereadItems?, hw]
    | some w => simp [rereadItems?, hw, skipBlanks_cons (c := ']') (by decide)]
  | cons next items =>
    have htext : (writeItems (v :: next :: items)).toList =
        (write v).toList ++ ',' :: (writeItems (next :: items)).toList := by
      simp [writeItems]
    rw [htext, List.length_append, List.length_cons] at hfuel
    have hread := ih.value hv (by omega)
      (endsNumber_comma ((writeItems (next :: items)).toList ++ ']' :: rest)) depth
    rw [htext, List.append_assoc, List.cons_append]
    simp only [readItems?, hread]
    cases hw : reread? depth v with
    | none => simp [rereadItems?, hw]
    | some w =>
      have hmore := ih.items hitems (by omega) depth (w :: read) rest
      rw [rereadItems?.eq_2, hw]
      simp [skipBlanks_cons (c := ',') (by decide), hmore, Function.comp_def]

/-- Written members are read up to the closing brace. Being in order, each is written behind those
that were read before. -/
theorem readMembers?_writeMembers_succ {m : String × Value} {members : Dict Value}
    (h : ∀ e ∈ m :: members, e.2.Storable)
    (hfuel : (writeMembers (m :: members)).toList.length < fuel + 1) (depth : Nat)
    (read : Dict Value) (rest : List Char) (hordered : Dict.Ordered (read ++ m :: members)) :
    readMembers? (fuel + 1) depth ((writeMembers (m :: members)).toList ++ '\x7d' :: rest) read =
      (rereadMembers? depth (m :: members)).map fun more => (.object (read ++ more), rest) := by
  obtain ⟨key, v⟩ := m
  have hv : v.Storable := h (key, v) List.mem_cons_self
  have hmembers := (List.forall_mem_cons.mp h).2
  cases members with
  | nil =>
    -- the last member is followed by the brace, the others by a comma
    have htext : (writeMembers [(key, v)]).toList =
        (quote key).toList ++ ':' :: (write v).toList := by
      simp [writeMembers]
    rw [htext, List.length_append, List.length_cons] at hfuel
    have hread := ih.value hv (by omega) (endsNumber_brace rest) depth
    obtain ⟨body, hbody, hkey⟩ := readString?_quote key (':' :: ((write v).toList ++ '\x7d' :: rest))
    rw [htext, List.append_assoc, List.cons_append, hbody, readMembers?,
      skipBlanks_cons (by decide)]
    simp only [hkey, skipBlanks_cons (c := ':') (by decide), hread]
    cases hw : reread? depth v with
    | none => simp [rereadMembers?, hw]
    | some w =>
      have hset := Dict.set_of_ordered (ordered_of_reread (w := w) hordered)
      simp [rereadMembers?, hw, skipBlanks_cons (c := '\x7d') (by decide), hset]
  | cons next members =>
    have htext : (writeMembers ((key, v) :: next :: members)).toList =
        (quote key).toList ++ ':' :: ((write v).toList ++ ',' ::
          (writeMembers (next :: members)).toList) := by
      simp [writeMembers]
    rw [htext, List.length_append, List.length_cons, List.length_append, List.length_cons] at hfuel
    have hread := ih.value hv (by omega)
      (endsNumber_comma ((writeMembers (next :: members)).toList ++ '\x7d' :: rest)) depth
    obtain ⟨body, hbody, hkey⟩ := readString?_quote key (':' :: ((write v).toList ++ ',' ::
      ((writeMembers (next :: members)).toList ++ '\x7d' :: rest)))
    rw [htext, List.append_assoc, List.cons_append, List.append_assoc, List.cons_append, hbody,
      readMembers?, skipBlanks_cons (by decide)]
    simp only [hkey, skipBlanks_cons (c := ':') (by decide), hread]
    cases hw : reread? depth v with
    | none => simp [rereadMembers?, hw]
    | some w =>
      have hwritten := ordered_of_reread (w := w) hordered
      have hset := Dict.set_of_ordered hwritten
      rw [List.append_cons] at hwritten
      have hmore := ih.members hmembers (by omega) depth (read ++ [(key, w)]) rest hwritten
      rw [rereadMembers?.eq_2, hw]
      simp [skipBlanks_cons (c := ',') (by decide), hset, hmore, Function.comp_def]

end Step

/-- Within any fuel, the readers make of written values what `reread?` says: by induction on the
fuel. -/
theorem readsWritten (fuel : Nat) : ReadsWritten fuel := by
  induction fuel with
  | zero =>
    refine ⟨fun h hfuel => ?_, fun _ hfuel => ?_, fun _ hfuel => ?_⟩
    · obtain ⟨c, rest, hc, -⟩ := exists_write_eq_cons h
      simp [hc] at hfuel
    · exact absurd hfuel (Nat.not_lt_zero _)
    · exact absurd hfuel (Nat.not_lt_zero _)
  | succ fuel ih =>
    exact ⟨readValue?_write_succ ih, readItems?_writeItems_succ ih,
      readMembers?_writeMembers_succ ih⟩

/-- The text of a value is read as the value with the floats that the reader makes of theirs. -/
theorem read?_write_eq {v : Value} (h : v.Storable) : read? (write v) = reread? depthLimit v := by
  have hfuel : (write v).toList.length ≤ 2 * (write v).toList.length + 2 := by omega
  have hread := (readsWritten _).value h hfuel endsNumber_nil depthLimit
  rw [List.append_nil] at hread
  simp only [read?, hread]
  cases reread? depthLimit v <;> rfl

/-- A value is read again from its text just if it is not nested too deep for the reader and each of
its floats is read back from its own text. -/
theorem read?_write_iff {v : Value} (h : v.Storable) :
    read? (write v) = some v ↔
      v.AllScalars FloatRereads ∧ (Node.ofValue v).depth ≤ depthLimit := by
  rw [read?_write_eq h]
  constructor
  · intro hread
    have hdepth := depth_le_of_reread? hread
    exact ⟨(reread?_eq_self_iff hdepth).mp hread, hdepth⟩
  · rintro ⟨hfloats, hdepth⟩
    exact (reread?_eq_self_iff hdepth).mpr hfloats

/-- What a value needs to be read back by a reader that goes down so many levels. -/
structure Readable (v : Value) (depth : Nat) : Prop where
  wellFormed : v.WellFormed
  fits : v.AllScalars Value.Fits
  rereads : v.AllScalars FloatRereads
  shallow : (Node.ofValue v).depth ≤ depth

/-- A value is read again from the text that it is written as. -/
theorem read?_write {v : Value} (h : Readable v depthLimit) : read? (write v) = some v :=
  (read?_write_iff ⟨h.wellFormed, h.fits⟩).mpr ⟨h.rereads, h.shallow⟩

/-- Numbers in a list, the float with a short decimal. -/
example : Readable (.array [.float 0.5, .int (-3)]) 1 :=
  ⟨⟨trivial, trivial, trivial⟩, ⟨rfl, ⟨by decide, by decide⟩, trivial⟩, ⟨rfl, trivial, trivial⟩,
    by decide⟩

end ClusterMonitor.Json

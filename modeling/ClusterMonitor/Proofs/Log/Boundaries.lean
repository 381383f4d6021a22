import ClusterMonitor.Proofs.Log.Conservation
import Mathlib.Data.List.Chain

/-!
# Where records begin

Lines that are pushed one after another and then flushed are cut greedily: a line goes on with the
record under way unless its start matches or the record has no room for it. The cut is told twice,
once as a function over the lines, which the aggregator is shown to follow, and once by what holds at
each line of the result.

* `Aggregator.cut` — the blocks of a list of lines, each with whether it was cut for want of room.
* `Aggregator.records_pushes` — pushes and a flush release the records of the cut.
* `Aggregator.Grown` and `Aggregator.Adjoins` — what holds within a block of the cut, and between a
  block and the next one.
* `Aggregator.IsGreedy` — what the records owe to the lines; `Aggregator.run_pushes_greedy` says that
  they owe it whatever the start pattern, the limit and the lines are.
-/

namespace ClusterMonitor.Aggregator

/-- The bytes of lines that are joined to one record. -/
def joinedBytes (block : List String) : Nat := ("\n".intercalate block).utf8ByteSize

/-- One more line takes up its own bytes and those of a line feed. -/
theorem joinedBytes_append_singleton {block : List String} (h : block ≠ []) (line : String) :
    joinedBytes (block ++ [line]) = joinedBytes block + 1 + line.utf8ByteSize := by
  have hfeed : "\n".utf8ByteSize = 1 := by decide
  unfold joinedBytes
  rw [String.intercalate_append_of_ne_nil h (List.cons_ne_nil line []),
    String.intercalate_singleton, String.utf8ByteSize_append, String.utf8ByteSize_append, hfeed]

/-! ## The cut -/

/-- The line begins a record when these lines are under way: its start matches, or the record of these
lines has no room for it. -/
def Begins (start : Regex.Expression) (maxBytes : Nat) (current : List String) (line : String) :
    Prop :=
  start.isMatch line = true ∨ maxBytes < joinedBytes current + 1 + line.utf8ByteSize

/-- The blocks of some lines that come after the lines of an open block, each with whether the next
line was cut off from it for want of room. -/
def cut (start : Regex.Expression) (maxBytes : Nat) :
    List String → List String → List (List String × Bool)
  | current, [] => [(current, false)]
  | current, line :: rest =>
    if start.isMatch line then (current, false) :: cut start maxBytes [line] rest
    else if maxBytes < joinedBytes current + 1 + line.utf8ByteSize then
      (current, true) :: cut start maxBytes [line] rest
    else cut start maxBytes (current ++ [line]) rest

/-- The record of a block. -/
def recordOf (block : List String × Bool) : Coalesced :=
  ⟨"\n".intercalate block.1, block.1.length, block.2⟩

/-- The record of waiting lines is that of a block of them. -/
theorem complete_eq (p : Pending) (truncated : Bool) :
    p.complete truncated = recordOf (p.lines, truncated) := rfl

/-- Lines as events, each with its time. -/
def pushes (lines : List (String × Nat)) : List Event := lines.map fun l => .push l.1 l.2

/-- The records behind waiting lines are those of the cut that has them in its open block. -/
theorem Settings.records_pushes (s : Settings) (p : Pending) (lines : List (String × Nat)) :
    s.records (some p) (pushes lines ++ [.flush]) =
      (cut s.start s.maxBytes p.lines (lines.map fun l => Text.dropCarriageReturn l.1)).map
        recordOf := by
  induction lines generalizing p with
  | nil => simp [pushes, records, run, step, flush, cut, complete_eq]
  | cons l lines ih =>
    obtain ⟨line, now⟩ := l
    have hcons : pushes ((line, now) :: lines) ++ [.flush] =
        .push line now :: (pushes lines ++ [.flush]) := rfl
    rw [hcons, records_cons, List.map_cons, cut]
    by_cases hstart : s.start.isMatch (Text.dropCarriageReturn line)
    · -- the line begins a record of its own
      have hpush : s.step (some p) (.push line now) = _ := push_of_start hstart
      rw [hpush, ih, if_pos hstart, List.map_cons, complete_eq]
      rfl
    · by_cases hfull : s.maxBytes < joinedBytes p.lines + 1 +
        (Text.dropCarriageReturn line).utf8ByteSize
      · -- so it does where the record has no room
        have hpush : s.step (some p) (.push line now) = _ := push_of_full hstart hfull
        rw [hpush, ih, if_neg hstart, if_pos hfull, List.map_cons, complete_eq]
        rfl
      · -- else the open block grows by it
        have hpush : s.step (some p) (.push line now) = _ := push_of_room hstart hfull
        rw [hpush, ih, if_neg hstart, if_neg hfull]
        rfl

/-- Pushes to an aggregator that nothing has happened to, and a flush, release the records of the
cut. -/
theorem records_pushes (start : Regex.Expression) (maxBytes : Nat) (timeout : Option Nat)
    (first : String × Nat) (lines : List (String × Nat)) :
    ({ start, maxBytes, timeout } : Aggregator).records (pushes (first :: lines) ++ [.flush]) =
      (cut start maxBytes [Text.dropCarriageReturn first.1]
        (lines.map fun l => Text.dropCarriageReturn l.1)).map recordOf := by
  rw [records_of_shows (shows_fresh start maxBytes timeout)]
  obtain ⟨line, now⟩ := first
  have hcons : pushes ((line, now) :: lines) ++ [.flush] =
      .push line now :: (pushes lines ++ [.flush]) := rfl
  rw [hcons, Settings.records_cons]
  exact Settings.records_pushes ⟨start, maxBytes, timeout⟩ (.first _ now) lines

/-! ## What holds of the cut -/

section Cut

variable {start : Regex.Expression} {maxBytes : Nat}

/-- No line of the block but the first begins a record behind the lines before it. -/
def Grown (start : Regex.Expression) (maxBytes : Nat) (block : List String) : Prop :=
  ∀ before line after, block = before ++ line :: after → before ≠ [] →
    ¬ Begins start maxBytes before line

/-- The next block opens with a line that begins a record behind this one, and this one is cut for
want of room unless the start of that line matches. -/
def Adjoins (start : Regex.Expression) (maxBytes : Nat) (b next : List String × Bool) : Prop :=
  ∃ line rest, next.1 = line :: rest ∧ Begins start maxBytes b.1 line ∧
    b.2 = !start.isMatch line

/-- A single line has grown without a cut. -/
theorem grown_singleton (line : String) : Grown start maxBytes [line] := by
  intro before l after h hne
  cases before with
  | nil => exact absurd rfl hne
  | cons x before => simp at h

/-- A block has grown by a line that does not begin a new one. -/
theorem Grown.append_singleton {block : List String} {line : String}
    (h : Grown start maxBytes block) (hline : ¬ Begins start maxBytes block line) :
    Grown start maxBytes (block ++ [line]) := by
  intro before l after heq hne
  rcases List.append_eq_append_iff.mp heq with ⟨xs, hbefore, hrest⟩ | ⟨xs, hblock, hrest⟩
  · -- the line is the new one
    cases xs with
    | nil =>
      obtain ⟨rfl, -⟩ := List.cons.inj hrest
      rw [hbefore, List.append_nil]
      exact hline
    | cons x xs => simp at hrest
  · cases xs with
    | nil =>
      obtain ⟨rfl, -⟩ := List.cons.inj hrest
      rw [List.append_nil] at hblock
      exact hblock ▸ hline
    | cons x xs =>
      -- the line is an old one
      obtain ⟨rfl, -⟩ := List.cons.inj hrest
      exact h before l xs hblock hne

variable (start maxBytes) in
/-- The first block of a cut starts with the lines of the open block. -/
theorem exists_cut_eq_cons (current lines : List String) :
    ∃ more truncated later,
      cut start maxBytes current lines = (current ++ more, truncated) :: later := by
  induction lines generalizing current with
  | nil => exact ⟨[], false, [], by simp [cut]⟩
  | cons line rest ih =>
    unfold cut
    split
    · exact ⟨[], false, cut start maxBytes [line] rest, by simp⟩
    · split
      · exact ⟨[], true, cut start maxBytes [line] rest, by simp⟩
      · obtain ⟨more, truncated, later, hcut⟩ := ih (current ++ [line])
        exact ⟨line :: more, truncated, later, by simp [hcut]⟩

/-- The blocks of the cut are the lines, in their order. -/
theorem flatten_cut (current lines : List String) :
    ((cut start maxBytes current lines).map Prod.fst).flatten = current ++ lines := by
  induction lines generalizing current with
  | nil => simp [cut]
  | cons line rest ih =>
    unfold cut
    split
    · simp [ih]
    · split
      · simp [ih]
      · simp [ih]

/-- A property of the open block that is shared by single lines, and kept by a line that goes on with
a block, holds of each block of the cut. -/
theorem forall_mem_cut {P : List String → Prop} (hsingle : ∀ line, P [line])
    (hgoesOn : ∀ block line, P block → ¬ Begins start maxBytes block line → P (block ++ [line]))
    {current : List String} (hcurrent : P current) (lines : List String) :
    ∀ b ∈ cut start maxBytes current lines, P b.1 := by
  induction lines generalizing current with
  | nil => simpa [cut] using hcurrent
  | cons line rest ih =>
    have hclosed (truncated : Bool) :
        ∀ b ∈ (current, truncated) :: cut start maxBytes [line] rest, P b.1 :=
      List.forall_mem_cons.mpr ⟨hcurrent, ih (hsingle line)⟩
    unfold cut
    split
    · exact hclosed false
    · rename_i hstart
      split
      · exact hclosed true
      · rename_i hfull
        exact ih (hgoesOn current line hcurrent (not_or.mpr ⟨hstart, hfull⟩))

/-- No block of the cut is empty. -/
theorem ne_nil_of_mem_cut {current : List String} (hcurrent : current ≠ []) (lines : List String) :
    ∀ b ∈ cut start maxBytes current lines, b.1 ≠ [] :=
  forall_mem_cut (P := (· ≠ [])) (fun line => List.cons_ne_nil line []) (fun _ _ _ _ => by simp)
    hcurrent lines

/-- Within a block of the cut, no line begins a new one. -/
theorem grown_of_mem_cut {current : List String} (hcurrent : Grown start maxBytes current)
    (lines : List String) : ∀ b ∈ cut start maxBytes current lines, Grown start maxBytes b.1 :=
  forall_mem_cut grown_singleton (fun _ _ => Grown.append_singleton) hcurrent lines

/-- Between two blocks of the cut, the first line of the second does. -/
theorem isChain_cut (current lines : List String) :
    (cut start maxBytes current lines).IsChain (Adjoins start maxBytes) := by
  induction lines generalizing current with
  | nil => simp [cut]
  | cons line rest ih =>
    have hclosed : ∀ truncated, Begins start maxBytes current line →
        (truncated = !start.isMatch line) →
        ((current, truncated) :: cut start maxBytes [line] rest).IsChain
          (Adjoins start maxBytes) := by
      intro truncated hbegins hflag
      obtain ⟨more, t, later, hcut⟩ :=
        exists_cut_eq_cons start maxBytes [line] rest
      have hrest := ih [line]
      rw [hcut] at hrest ⊢
      exact List.isChain_cons_cons.mpr ⟨⟨line, more, rfl, hbegins, hflag⟩, hrest⟩
    unfold cut
    split
    · rename_i hstart
      exact hclosed false (Or.inl hstart) (by simp [hstart])
    · rename_i hstart
      split
      · rename_i hfull
        exact hclosed true (Or.inr hfull) (by simp [hstart])
      · exact ih (current ++ [line])

variable (start maxBytes) in
/-- Nothing is cut off from the last block. -/
theorem getLast?_cut (current lines : List String) :
    ∃ block, (cut start maxBytes current lines).getLast? = some (block, false) := by
  induction lines generalizing current with
  | nil => exact ⟨current, by simp [cut]⟩
  | cons line rest ih =>
    obtain ⟨block, hblock⟩ := ih [line]
    unfold cut
    split
    · exact ⟨block, by simp [List.getLast?_cons, hblock]⟩
    · split
      · exact ⟨block, by simp [List.getLast?_cons, hblock]⟩
      · exact ih (current ++ [line])

/-- A block of two or more lines has them within the limit, for the last of them had room. -/
theorem joinedBytes_le_of_grown {block : List String} (h : Grown start maxBytes block)
    (hlength : 2 ≤ block.length) : joinedBytes block ≤ maxBytes := by
  cases block using List.reverseRecOn with
  | nil => simp at hlength
  | append_singleton before line _ =>
    have hne : before ≠ [] := by
      rintro rfl
      simp at hlength
    have hroom := not_or.mp (h before line [] rfl hne)
    rw [joinedBytes_append_singleton hne]
    omega

end Cut

/-! ## A run of pushes -/

/-- Where a line lies that is not the first one of its blocks: it opens a block behind another one, or
comes later in its own. -/
theorem exists_place {blocks : List (List String)} (hne : ∀ b ∈ blocks, b ≠ [])
    {before after : List String} {line : String} (h : blocks.flatten = before ++ line :: after)
    (hbefore : before ≠ []) :
    ∃ earlier current rest later, current ≠ [] ∧ before = earlier.flatten ++ current ∧
      (blocks = earlier ++ current :: (line :: rest) :: later ∨
        blocks = earlier ++ (current ++ line :: rest) :: later) := by
  induction blocks generalizing before with
  | nil => simp at h
  | cons b blocks ih =>
    have hb : b ≠ [] := hne b List.mem_cons_self
    have hblocks : ∀ x ∈ blocks, x ≠ [] := fun x hx => hne x (List.mem_cons_of_mem _ hx)
    -- where the block ends right before the line, the line opens the next one
    have hnext : blocks.flatten = line :: after → before = b →
        ∃ earlier current rest later, current ≠ [] ∧ before = earlier.flatten ++ current ∧
          (b :: blocks = earlier ++ current :: (line :: rest) :: later ∨
            b :: blocks = earlier ++ (current ++ line :: rest) :: later) := by
      intro hflat heq
      cases blocks with
      | nil => simp at hflat
      | cons c later =>
        obtain ⟨x, rest, rfl⟩ := List.exists_cons_of_ne_nil (hblocks c List.mem_cons_self)
        obtain ⟨rfl, -⟩ := List.cons.inj hflat
        exact ⟨[], b, rest, later, hb, by simp [heq], Or.inl rfl⟩
    rw [List.flatten_cons] at h
    rcases List.append_eq_append_iff.mp h with ⟨xs, hxs, hrest⟩ | ⟨xs, hxs, hrest⟩
    · cases xs with
      | nil => exact hnext hrest (by simpa using hxs)
      | cons x xs =>
        -- the line lies in a later block
        obtain ⟨earlier, current, rest, later, hcurrent, hflat, hplace⟩ :=
          ih hblocks hrest (List.cons_ne_nil x xs)
        refine ⟨b :: earlier, current, rest, later, hcurrent, by simp [hxs, hflat], ?_⟩
        rcases hplace with hplace | hplace
        · exact Or.inl (by simp [hplace])
        · exact Or.inr (by simp [hplace])
    · cases xs with
      | nil => exact hnext hrest.symm (by simpa using hxs.symm)
      | cons x xs =>
        -- the line lies in this block
        obtain ⟨rfl, -⟩ := List.cons.inj hrest
        exact ⟨[], before, xs, blocks, hbefore, by simp, Or.inr (by simp [hxs])⟩

/-- What the records of some lines owe to the blocks that they are made of. -/
structure IsGreedy (start : Regex.Expression) (maxBytes : Nat) (records : List Coalesced)
    (blocks : List (List String)) : Prop where
  /-- Each record is made of its block. -/
  holds : List.Forall₂ Coalesced.Holds records blocks
  /-- A line after the first opens a block exactly when it begins a record behind the lines under way,
  and goes on with their block exactly when it does not. -/
  begins_iff : ∀ before line after, blocks.flatten = before ++ line :: after → before ≠ [] →
    ∃ earlier current, current ≠ [] ∧ before = earlier.flatten ++ current ∧
      ((∃ rest later, blocks = earlier ++ current :: (line :: rest) :: later) ↔
        start.isMatch line = true ∨
          maxBytes < ("\n".intercalate current).utf8ByteSize + 1 + line.utf8ByteSize) ∧
      ((∃ rest later, blocks = earlier ++ (current ++ line :: rest) :: later) ↔
        ¬ (start.isMatch line = true ∨
          maxBytes < ("\n".intercalate current).utf8ByteSize + 1 + line.utf8ByteSize))
  /-- Only the first line of a block may match. -/
  not_match_of_mem_tail : ∀ block ∈ blocks, ∀ line ∈ block.tail, start.isMatch line = false
  /-- A record of several lines keeps within the limit. -/
  bytes_le : ∀ r ∈ records, 2 ≤ r.lineCount → r.content.utf8ByteSize ≤ maxBytes
  /-- A record is flagged exactly when there is a next one, and that does not open with a match. -/
  truncated_iff : ∀ i r, records[i]? = some r →
    (r.truncated = true ↔
      ∃ line rest, blocks[i + 1]? = some (line :: rest) ∧ start.isMatch line = false)
  /-- In this case the next line has no room in it. -/
  lt_bytes_of_truncated : ∀ i r, records[i]? = some r → r.truncated = true →
    ∃ line rest, blocks[i + 1]? = some (line :: rest) ∧
      maxBytes < r.content.utf8ByteSize + 1 + line.utf8ByteSize
  /-- The record of the flush is never flagged. -/
  getLast_truncated : ∀ r, records.getLast? = some r → r.truncated = false

section Greedy

variable {start : Regex.Expression} {maxBytes : Nat}

/-- A block of a cut adjoins the next one, or is the last one and not cut for want of room. -/
theorem next_of_getElem?_cut (current lines : List String) {i : Nat} {b : List String × Bool}
    (hb : (cut start maxBytes current lines)[i]? = some b) :
    (∃ next, (cut start maxBytes current lines)[i + 1]? = some next ∧
        Adjoins start maxBytes b next) ∨
      ((cut start maxBytes current lines)[i + 1]? = none ∧ b.2 = false) := by
  obtain ⟨hi, rfl⟩ := List.getElem?_eq_some_iff.mp hb
  by_cases hnext : i + 1 < (cut start maxBytes current lines).length
  · left
    have hadjoins := List.isChain_iff_getElem.mp (isChain_cut current lines) i hnext
    exact ⟨_, List.getElem?_eq_getElem hnext, hadjoins⟩
  · right
    obtain ⟨block, hlast⟩ := getLast?_cut start maxBytes current lines
    have hlength : (cut start maxBytes current lines).length - 1 = i := by omega
    rw [List.getLast?_eq_getElem?, hlength, hb] at hlast
    exact ⟨List.getElem?_eq_none (by omega), congrArg Prod.snd (Option.some.inj hlast)⟩

theorem holds_recordOf {b : List String × Bool} (h : b.1 ≠ []) : (recordOf b).Holds b.1 :=
  ⟨h, rfl, rfl⟩

/-- A line of the cut opens a block just if it begins a new one after those that are open there. -/
theorem begins_iff_cut (first : String) (lines : List String) {before after : List String}
    {line : String}
    (h : ((cut start maxBytes [first] lines).map Prod.fst).flatten = before ++ line :: after)
    (hbefore : before ≠ []) :
    ∃ earlier current, current ≠ [] ∧ before = earlier.flatten ++ current ∧
      ((∃ rest later, (cut start maxBytes [first] lines).map Prod.fst =
          earlier ++ current :: (line :: rest) :: later) ↔ Begins start maxBytes current line) ∧
      ((∃ rest later, (cut start maxBytes [first] lines).map Prod.fst =
          earlier ++ (current ++ line :: rest) :: later) ↔
        ¬ Begins start maxBytes current line) := by
  have hne : ∀ b ∈ (cut start maxBytes [first] lines).map Prod.fst, b ≠ [] :=
    List.forall_mem_map.mpr (ne_nil_of_mem_cut (List.cons_ne_nil first []) lines)
  have hgrown : ∀ b ∈ (cut start maxBytes [first] lines).map Prod.fst,
      Grown start maxBytes b :=
    List.forall_mem_map.mpr (grown_of_mem_cut (grown_singleton first) lines)
  have hchain : ((cut start maxBytes [first] lines).map Prod.fst).IsChain fun b next =>
      ∃ line rest, next = line :: rest ∧ Begins start maxBytes b line := by
    refine (List.isChain_map Prod.fst).mpr ((isChain_cut [first] lines).imp ?_)
    rintro b next ⟨line, rest, hnext, hbegins, -⟩
    exact ⟨line, rest, hnext, hbegins⟩
  obtain ⟨earlier, current, rest, later, hcurrent, hflat, hplace⟩ := exists_place hne h hbefore
  -- a line that opens a block begins a record, and one that goes on with a block does not
  have hopens : (∃ rest later, (cut start maxBytes [first] lines).map Prod.fst =
      earlier ++ current :: (line :: rest) :: later) → Begins start maxBytes current line := by
    rintro ⟨rest, later, heq⟩
    rw [heq] at hchain
    obtain ⟨-, ⟨l, xs, hl, hbegins⟩, -⟩ := List.isChain_append_cons_cons.mp hchain
    obtain ⟨rfl, -⟩ := List.cons.inj hl
    exact hbegins
  have hgoesOn : (∃ rest later, (cut start maxBytes [first] lines).map Prod.fst =
      earlier ++ (current ++ line :: rest) :: later) → ¬ Begins start maxBytes current line := by
    rintro ⟨rest, later, heq⟩
    exact hgrown (current ++ line :: rest) (by simp [heq]) current line rest rfl hcurrent
  refine ⟨earlier, current, hcurrent, hflat, ⟨hopens, ?_⟩, ⟨hgoesOn, ?_⟩⟩
  · intro hbegins
    rcases hplace with hplace | hplace
    · exact ⟨rest, later, hplace⟩
    · exact absurd hbegins (hgoesOn ⟨rest, later, hplace⟩)
  · intro hbegins
    rcases hplace with hplace | hplace
    · exact absurd (hopens ⟨rest, later, hplace⟩) hbegins
    · exact ⟨rest, later, hplace⟩

/-- The records of the cut are greedy. -/
theorem isGreedy_cut (first : String) (lines : List String) :
    IsGreedy start maxBytes ((cut start maxBytes [first] lines).map recordOf)
      ((cut start maxBytes [first] lines).map Prod.fst) where
  holds := by
    rw [List.forall₂_map_left_iff, List.forall₂_map_right_iff, List.forall₂_same]
    intro b hb
    exact holds_recordOf (ne_nil_of_mem_cut (List.cons_ne_nil first []) lines b hb)
  begins_iff := fun before line after h hbefore => begins_iff_cut first lines h hbefore
  not_match_of_mem_tail := by
    intro block hblock line hline
    obtain ⟨b, hb, rfl⟩ := List.mem_map.mp hblock
    obtain ⟨x, rest, hrest⟩ :=
      List.exists_cons_of_ne_nil (ne_nil_of_mem_cut (List.cons_ne_nil first []) lines b hb)
    rw [hrest, List.tail_cons] at hline
    obtain ⟨before, after, rfl⟩ := List.append_of_mem hline
    have hgrown := grown_of_mem_cut (grown_singleton first) lines b hb
    have hroom := hgrown (x :: before) line after (by simp [hrest]) (List.cons_ne_nil x before)
    simpa using (not_or.mp hroom).1
  bytes_le := by
    intro r hr hlength
    obtain ⟨b, hb, rfl⟩ := List.mem_map.mp hr
    exact joinedBytes_le_of_grown (grown_of_mem_cut (grown_singleton first) lines b hb) hlength
  truncated_iff := by
    intro i r hr
    rw [List.getElem?_map] at hr ⊢
    obtain ⟨b, hb, rfl⟩ := Option.map_eq_some_iff.mp hr
    rcases next_of_getElem?_cut [first] lines hb with
      ⟨next, hnext, line, rest, hrest, -, hflag⟩ | ⟨hnone, hflag⟩
    · simp [recordOf, hflag, hnext, hrest]
    · simp [recordOf, hflag, hnone]
  lt_bytes_of_truncated := by
    intro i r hr htruncated
    rw [List.getElem?_map] at hr ⊢
    obtain ⟨b, hb, rfl⟩ := Option.map_eq_some_iff.mp hr
    have hflagged : b.2 = true := htruncated
    rcases next_of_getElem?_cut [first] lines hb with
      ⟨next, hnext, line, rest, hrest, hbegins, hflag⟩ | ⟨-, hflag⟩
    · -- the start of the line does not match, so it is for want of room that it begins a record
      have hstart : ¬ start.isMatch line = true := by
        simpa [hflagged] using hflag
      exact ⟨line, rest, by simp [hnext, hrest], hbegins.resolve_left hstart⟩
    · rw [hflagged] at hflag
      cases hflag
  getLast_truncated := by
    intro r hr
    obtain ⟨block, hlast⟩ := getLast?_cut start maxBytes [first] lines
    rw [List.getLast?_map, hlast] at hr
    obtain rfl := Option.some.inj hr
    rfl

end Greedy

/-- Lines that are pushed one after another and then flushed, with no poll in between, are cut into
records greedily, whatever the start pattern, the limit, the timeout, the lines and their times are. -/
theorem run_pushes_greedy (start : Regex.Expression) (maxBytes : Nat) (timeout : Option Nat)
    (lines : List (String × Nat)) :
    let records := ({ start, maxBytes, timeout } : Aggregator).records (pushes lines ++ [.flush])
    ∃ blocks : List (List String),
      List.Forall₂ Text.DropsReturn (lines.map Prod.fst) blocks.flatten ∧
      IsGreedy start maxBytes records blocks := by
  intro records
  cases lines with
  | nil =>
    -- no line, no record
    have hrecords : records = [] := rfl
    rw [hrecords]
    exact ⟨[], by simp, ⟨by simp, by simp, by simp, by simp, by simp, by simp, by simp⟩⟩
  | cons first lines =>
    have hrecords := records_pushes start maxBytes timeout first lines
    refine ⟨(cut start maxBytes [Text.dropCarriageReturn first.1]
      (lines.map fun l => Text.dropCarriageReturn l.1)).map Prod.fst, ?_, ?_⟩
    · have hkept := Text.dropsReturn_map ((first :: lines).map Prod.fst)
      rw [List.map_map] at hkept
      rw [flatten_cut]
      exact hkept
    · have hlines : records = _ := hrecords
      rw [hlines]
      exact isGreedy_cut _ _

end ClusterMonitor.Aggregator

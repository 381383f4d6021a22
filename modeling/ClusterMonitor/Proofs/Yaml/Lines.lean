import ClusterMonitor.Proofs.Text.OneLine
import ClusterMonitor.Yaml.Writer

/-!
# The lines of a YAML document

The lines that a value is written in are lines indeed: a text with line feeds is written as a block,
a line of it at a time, or in double quotes, where they are escaped.

* `Yaml.Block.OneLined` — each line of a block stands on one line.
* `Yaml.textBlock_oneLined` — texts in the form that is chosen for them.
* `Yaml.oneLine_of_mem_lines` — all lines of a document; `Yaml.lines_ne_nil`, there is at least one.
-/

namespace ClusterMonitor.Yaml

open Text (OneLine oneLine_append oneLine_ofList)

/-! ## Texts -/

theorem lineFeed_notMem_pad (n : Nat) : '\n' ∉ pad n := by
  simp [pad, List.mem_replicate]

theorem lineFeed_notMem_padLines (indent : Nat) (fresh : Bool) {cs : List Char} (h : '\n' ∉ cs) :
    '\n' ∉ padLines indent fresh cs := by
  induction cs generalizing fresh with
  | nil => simp [padLines]
  | cons c rest ih =>
    obtain ⟨hc, hrest⟩ := not_or.mp (fun hmem => h (List.mem_cons.mpr hmem))
    unfold padLines
    split
    · exact List.not_mem_cons_of_ne_of_not_mem hc (ih true hrest)
    · split
      · rw [List.mem_append, not_or]
        exact ⟨lineFeed_notMem_pad indent, List.not_mem_cons_of_ne_of_not_mem hc (ih false hrest)⟩
      · exact List.not_mem_cons_of_ne_of_not_mem hc (ih false hrest)

theorem lineFeed_notMem_singleQuoted (indent : Nat) {cs : List Char} (h : '\n' ∉ cs) :
    '\n' ∉ singleQuoted indent cs := by
  have hquotes : '\n' ∉ (padLines indent false cs).flatMap
      (fun c => if c == '\'' then [c, c] else [c]) := by
    intro hmem
    obtain ⟨c, hc, hfeed⟩ := List.mem_flatMap.mp hmem
    have hself : '\n' = c := by
      split at hfeed <;> simpa using hfeed
    exact lineFeed_notMem_padLines indent false h (hself ▸ hc)
  have hlast : '\n' ∉ (if cs.getLast?.any endsLine then pad indent else []) := by
    split
    · exact lineFeed_notMem_pad indent
    · exact List.not_mem_nil
  unfold singleQuoted
  simp only [List.mem_append, List.mem_cons, not_or]
  exact ⟨⟨⟨by decide, hquotes⟩, hlast⟩, by decide⟩

/-- The digits of a number are no line feeds, and none becomes one as a capital. -/
theorem toUpper_ne_lineFeed {base n : Nat} (hbase : 1 < base) {c : Char}
    (hc : c ∈ Nat.toDigits base n) : c.toUpper ≠ '\n' := by
  have hsmall : ∀ k < 16, (Nat.digitChar k).toUpper ≠ '\n' := by decide
  have hdigit (k : Nat) : (Nat.digitChar k).toUpper ≠ '\n' := by
    by_cases hk : k < 16
    · exact hsmall k hk
    · -- larger numbers have no digit
      have hstar : Nat.digitChar k = '*' := by
        unfold Nat.digitChar
        repeat rw [if_neg (by omega)]
      rw [hstar]
      decide
  induction n using Nat.strongRecOn with
  | ind n ih =>
    rw [Nat.toDigits_eq_if hbase] at hc
    split at hc
    · obtain rfl := List.mem_singleton.mp hc
      exact hdigit n
    · rename_i hle
      rcases List.mem_append.mp hc with hc | hc
      · exact ih (n / base) (Nat.div_lt_self (by omega) hbase) hc
      · obtain rfl := List.mem_singleton.mp hc
        exact hdigit (n % base)

theorem lineFeed_notMem_hexCode (digits n : Nat) : '\n' ∉ hexCode digits n := by
  unfold hexCode
  simp only [List.mem_append, not_or, List.mem_replicate, List.mem_map]
  refine ⟨fun h => absurd h.2 (by decide), ?_⟩
  rintro ⟨c, hc, hfeed⟩
  exact toUpper_ne_lineFeed (by decide) hc hfeed

/-- No character is escaped with a line feed, the line feed itself included. -/
theorem lineFeed_notMem_escaped (c : Char) : '\n' ∉ escaped c := by
  unfold escaped
  split
  all_goals try decide
  -- a character without an escape of its own
  rename_i hfeed _ _ _ _ _ _ _ _ _
  have hc : '\n' ≠ c := fun h => hfeed h.symm
  split
  · simpa using hc
  · split
    · exact List.not_mem_cons_of_ne_of_not_mem (by decide)
        (List.not_mem_cons_of_ne_of_not_mem (by decide) (lineFeed_notMem_hexCode 2 _))
    · exact List.not_mem_cons_of_ne_of_not_mem (by decide)
        (List.not_mem_cons_of_ne_of_not_mem (by decide) (lineFeed_notMem_hexCode 4 _))

/-! ## Blocks -/

namespace Block

/-- Each line of the block stands on one line. -/
def OneLined (b : Block) : Prop := OneLine b.first ∧ ∀ line ∈ b.rest, OneLine line

theorem oneLined_mk {text : String} (h : OneLine text) : OneLined ⟨text, []⟩ :=
  ⟨h, fun _ hline => absurd hline List.not_mem_nil⟩

theorem OneLined.after {b : Block} (hb : b.OneLined) {text : String} (htext : OneLine text) :
    (b.after text).OneLined :=
  ⟨(oneLine_append text b.first).mpr ⟨htext, hb.1⟩, hb.2⟩

/-- The lines of such a block are lines at every indentation. -/
theorem OneLined.lines {b : Block} (hb : b.OneLined) (indent : Nat) :
    ∀ line ∈ b.lines indent, OneLine line := by
  intro line hline
  rcases List.mem_cons.mp hline with rfl | hline
  · exact (oneLine_append _ _).mpr ⟨(oneLine_ofList _).mpr (lineFeed_notMem_pad indent), hb.1⟩
  · exact hb.2 line hline

/-- Blocks one below the other have lines that are lines if each has. -/
theorem oneLined_stack (indent : Nat) {blocks : List Block} (h : ∀ b ∈ blocks, b.OneLined) :
    (stack indent blocks).OneLined := by
  cases blocks with
  | nil =>
    have hempty : OneLine "" := by decide
    exact oneLined_mk hempty
  | cons b later =>
    have hb := h b List.mem_cons_self
    refine ⟨hb.1, ?_⟩
    intro line hline
    rcases List.mem_append.mp hline with hline | hline
    · exact hb.2 line hline
    · obtain ⟨c, hc, hline⟩ := List.mem_flatMap.mp hline
      exact (h c (List.mem_cons_of_mem _ hc)).lines indent line hline

end Block

/-- The sign of a literal block stands on its own line. -/
theorem literalSign_oneLine (cs : List Char) : OneLine (literalSign cs) := by
  have hdepth : OneLine (if cs.head?.any (fun c => c == ' ' || endsLine c) then "2" else "") := by
    split
    · decide
    · decide
  unfold literalSign
  dsimp only
  simp only [oneLine_append]
  refine ⟨⟨by decide, hdepth⟩, ?_⟩
  split
  · decide
  · split
    · decide
    · split
      · decide
      · decide

/-- A literal block is cut at the line feeds of its text. -/
theorem literalBlock_oneLined (indent : Nat) (cs : List Char) :
    (literalBlock indent cs).OneLined := by
  refine ⟨literalSign_oneLine cs, ?_⟩
  intro line hline
  obtain ⟨piece, hpiece, rfl⟩ := List.mem_map.mp hline
  have hnone := Text.notMem_of_mem_splitLines hpiece
  exact (oneLine_ofList _).mpr (lineFeed_notMem_padLines indent true hnone)

/-- A text in the form that is chosen for it: a plain one and one in single quotes has no line feed to
begin with. -/
theorem textBlock_oneLined (indent : Nat) (text : String) :
    (textBlock indent (ScalarForm.ofText text) text).OneLined := by
  have hescapes : '\n' ∉ text.toList.flatMap escaped := by
    intro hmem
    obtain ⟨c, -, hc⟩ := List.mem_flatMap.mp hmem
    exact lineFeed_notMem_escaped c hc
  have hdouble : (textBlock indent .double text).OneLined := by
    refine Block.oneLined_mk ?_
    simp only [oneLine_append, oneLine_ofList]
    exact ⟨⟨by decide, hescapes⟩, by decide⟩
  unfold ScalarForm.ofText
  dsimp only
  split
  · split
    · exact literalBlock_oneLined indent text.toList
    · exact hdouble
  · rename_i hfeed
    have hnone : '\n' ∉ text.toList := by simpa using hfeed
    split
    · exact Block.oneLined_mk hnone
    · split
      · exact Block.oneLined_mk ((oneLine_ofList _).mpr (lineFeed_notMem_singleQuoted indent hnone))
      · exact hdouble

/-- A member has lines that are lines if its value has. -/
theorem memberBlock_oneLined (indent : Nat) (key : String) (v : Value) {b : Block}
    (hb : b.OneLined) : (memberBlock indent key v b).OneLined := by
  have hkey := textBlock_oneLined (indent + 2) key
  unfold memberBlock
  dsimp only
  split
  · -- key and value are a block each
    refine Block.oneLined_stack indent ?_
    intro c hc
    rcases List.mem_pair.mp hc with rfl | rfl
    · exact hkey.after (by decide)
    · exact hb.after (by decide)
  · split
    · exact ⟨(oneLine_append _ _).mpr ⟨hkey.1, by decide⟩, hb.lines _⟩
    · exact hb.after ((oneLine_append _ _).mpr ⟨hkey.1, by decide⟩)

mutual

/-- Every value is written in lines that are lines: by induction on the value. -/
theorem block_oneLined (indent : Nat) : ∀ v : Value, (block indent v).OneLined
  | .null =>
    have hnull : OneLine "null" := by decide
    Block.oneLined_mk hnull
  | .bool b =>
    have hflag : OneLine (if b then "true" else "false") := by cases b <;> decide
    Block.oneLined_mk hflag
  | .int n => Block.oneLined_mk (Text.oneLine_toString_int n)
  | .float x => Block.oneLined_mk (Decimal.oneLine_write (by decide) (by decide) x)
  | .string s => textBlock_oneLined indent s
  | .array [] =>
    have hempty : OneLine "[]" := by decide
    Block.oneLined_mk hempty
  | .array (v :: rest) => Block.oneLined_stack indent (itemBlocks_oneLined indent (v :: rest))
  | .object [] =>
    have hempty : OneLine "\x7b\x7d" := by decide
    Block.oneLined_mk hempty
  | .object (m :: rest) => Block.oneLined_stack indent (memberBlocks_oneLined indent (m :: rest))

theorem itemBlocks_oneLined (indent : Nat) :
    ∀ items : List Value, ∀ b ∈ itemBlocks indent items, b.OneLined
  | [] => by simp [itemBlocks]
  | v :: rest => by
    have hdash : OneLine "- " := by decide
    have hv := (block_oneLined (indent + 2) v).after hdash
    have hrest := itemBlocks_oneLined indent rest
    intro b hb
    rcases List.mem_cons.mp hb with rfl | hb
    · exact hv
    · exact hrest b hb

theorem memberBlocks_oneLined (indent : Nat) :
    ∀ members : List (String × Value), ∀ b ∈ memberBlocks indent members, b.OneLined
  | [] => by simp [memberBlocks]
  | (k, v) :: rest => by
    have hv := memberBlock_oneLined indent k v (block_oneLined (memberColumn indent k v) v)
    have hrest := memberBlocks_oneLined indent rest
    intro b hb
    rcases List.mem_cons.mp hb with rfl | hb
    · exact hv
    · exact hrest b hb

end

/-- No line of a document has a line feed in it. -/
theorem oneLine_of_mem_lines (v : Value) : ∀ line ∈ lines v, OneLine line :=
  (block_oneLined 0 v).lines 0

theorem lines_ne_nil (v : Value) : lines v ≠ [] := List.cons_ne_nil _ _

end ClusterMonitor.Yaml

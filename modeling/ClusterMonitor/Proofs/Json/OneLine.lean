import ClusterMonitor.Json.Writer
import ClusterMonitor.Proofs.Text.OneLine

/-!
# JSON on one line

Line feeds inside strings are escaped, so a value that is written without blanks stays on one line.

* `Json.oneLine_quote`, `Json.oneLine_write` — strings, and all values.
-/

namespace ClusterMonitor.Json

open Text (OneLine oneLine_append oneLine_ofList)

theorem hexChar_ne_lineFeed {n : Nat} (h : n < 16) : hexChar n ≠ '\n' := by
  decide +revert

/-- No character is escaped with a line feed. -/
theorem lineFeed_notMem_escapeChar (c : Char) : '\n' ∉ escapeChar c := by
  unfold escapeChar
  split
  · decide
  · decide
  · decide
  · decide
  · decide
  · decide
  · decide
  · rename_i hfeed _ _ _ _
    have hc : '\n' ≠ c := fun h => hfeed h.symm
    split
    · -- the code of a control character has two digits
      have hhigh := hexChar_ne_lineFeed (n := c.toNat / 16) (by omega)
      have hlow := hexChar_ne_lineFeed (n := c.toNat % 16) (by omega)
      simp [hhigh.symm, hlow.symm]
    · simpa using hc

/-- A quoted string is one line. -/
theorem oneLine_quote (s : String) : OneLine (quote s) := by
  have hescaped : '\n' ∉ s.toList.flatMap escapeChar := by
    intro hmem
    obtain ⟨c, -, hc⟩ := List.mem_flatMap.mp hmem
    exact lineFeed_notMem_escapeChar c hc
  unfold quote
  simp only [oneLine_append, oneLine_ofList]
  exact ⟨⟨by decide, hescaped⟩, by decide⟩

mutual

/-- A value that is written without blanks stands on one line. -/
theorem oneLine_write : ∀ v : Value, OneLine (write v)
  | .null => by decide
  | .bool b => by cases b <;> decide
  | .int n => Text.oneLine_toString_int n
  | .float x => Decimal.oneLine_write (by decide) (by decide) x
  | .string s => oneLine_quote s
  | .array items => by
    have hitems := oneLine_writeItems items
    simp only [write, oneLine_append]
    exact ⟨⟨by decide, hitems⟩, by decide⟩
  | .object members => by
    have hmembers := oneLine_writeMembers members
    simp only [write, oneLine_append]
    exact ⟨⟨by decide, hmembers⟩, by decide⟩

theorem oneLine_writeItems : ∀ items : List Value, OneLine (writeItems items)
  | [] => by decide
  | [v] => oneLine_write v
  | v :: w :: rest => by
    have hv := oneLine_write v
    have hrest := oneLine_writeItems (w :: rest)
    simp only [writeItems, oneLine_append]
    exact ⟨⟨hv, by decide⟩, hrest⟩

theorem oneLine_writeMembers : ∀ members : List (String × Value), OneLine (writeMembers members)
  | [] => by decide
  | [(k, v)] => by
    have hv := oneLine_write v
    simp only [writeMembers, oneLine_append]
    exact ⟨⟨oneLine_quote k, by decide⟩, hv⟩
  | (k, v) :: m :: rest => by
    have hv := oneLine_write v
    have hrest := oneLine_writeMembers (m :: rest)
    simp only [writeMembers, oneLine_append]
    exact ⟨⟨⟨⟨oneLine_quote k, by decide⟩, hv⟩, by decide⟩, hrest⟩

end

end ClusterMonitor.Json

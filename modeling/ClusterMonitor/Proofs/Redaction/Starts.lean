import ClusterMonitor.Proofs.Redaction.Credentials
import ClusterMonitor.Proofs.Regex.Quiet

/-!
# Where credentials can start

Conditions that keep a built-in pattern from matching.

* `startsWord` and `endsWord` — the characters at the ends of a word, in any case.
* `loginMayStart`, `headerMayStart` and `pairMayStart` — at which characters a match can start.
* `signBefore_inUrl`, `signBefore_header`, `signBefore_pair` — signs that a match reaches before other
  characters.
-/

namespace ClusterMonitor

open Regex Unicode

namespace Credentials

/-! ## Where matches start -/

/-- May a word start with the character? -/
def startsWord (word : String) (c : Char) : Bool :=
  (caselessSets word).head?.any fun s => s.contains c

/-- A spelled word begins with a character that the word may begin with. -/
theorem Spells.startsWord {word : String} {c : Char} {xs : List Char} (h : Spells word (c :: xs)) :
    startsWord word c = true := by
  have hspells := h.spells
  unfold Credentials.startsWord
  cases hsets : caselessSets word with
  | nil =>
    have hlength := h.length
    rw [hsets] at hlength
    cases hlength
  | cons s sets =>
    rw [hsets, Regex.spells, Bool.and_eq_true] at hspells
    simpa using hspells.1

/-- May a word end with the character? -/
def endsWord (word : String) (c : Char) : Bool :=
  (caselessSets word).getLast?.any fun s => s.contains c

theorem Spells.endsWord {word : String} {xs : List Char} {c : Char} (h : Spells word (xs ++ [c])) :
    endsWord word c = true := by
  have hlength := h.length
  have hspells := h.spells
  rcases List.eq_nil_or_concat' (caselessSets word) with hsets | ⟨sets, s, hsets⟩
  · simp [hsets] at hlength
  · rw [hsets, List.length_append, List.length_append] at hlength
    rw [hsets, spells_append, Nat.succ.inj hlength, List.drop_left, Bool.and_eq_true] at hspells
    simpa [Credentials.endsWord, hsets, Regex.spells] using hspells.2

/-- A spelled word has a first character, unless the word is empty. -/
theorem Spells.exists_cons {word : String} {xs : List Char} (h : Spells word xs)
    (hne : caselessSets word ≠ []) : ∃ c cs, xs = c :: cs := by
  refine List.exists_cons_of_ne_nil fun hnil => hne ?_
  rw [← List.length_eq_zero_iff, ← h.length, hnil, List.length_nil]

/-- A word edge depends on the characters around the place only. -/
theorem wordEdge_holds_cons (before : Option Char) (c : Char) (cs : List Char) :
    wordEdge.holds ⟨0, before, c :: cs⟩ = wordEdge.holds ⟨0, before, [c]⟩ := rfl

def loginMayStart (before : Option Char) (c : Char) : Bool :=
  wordEdge.holds ⟨0, before, [c]⟩ && letterSet.contains c

def headerMayStart (_ : Option Char) (c : Char) : Bool := startsWord "authorization" c

def pairMayStart (before : Option Char) (c : Char) : Bool :=
  wordEdge.holds ⟨0, before, [c]⟩ && keyWords.any fun word => startsWord word c

/-- Where a login is found, one may start. -/
theorem loginMayStart_of_matchAt? {before : Option Char} {c : Char} {cs : List Char} {m : Match}
    (h : matchAt? inUrl.body ⟨0, before, c :: cs⟩ = some m) : loginMayStart before c = true := by
  obtain ⟨hedge, l, rest, hcs, -⟩ := exists_login h
  obtain rfl : c = l.initial := (List.cons.inj hcs).1
  rw [loginMayStart, ← wordEdge_holds_cons before _ cs, hedge, l.initial_mem]
  rfl

/-- Where a header is found, one may start. -/
theorem headerMayStart_of_matchAt? {before : Option Char} {c : Char} {cs : List Char} {m : Match}
    (h : matchAt? header.body ⟨0, before, c :: cs⟩ = some m) : headerMayStart before c = true := by
  obtain ⟨a, rest, -, hcs, -⟩ := exists_authorization h
  have hname := a.name_spells
  obtain ⟨d, ds, hd⟩ := hname.exists_cons (by decide)
  rw [hd] at hname
  rw [Authorization.text, Authorization.opening, hd] at hcs
  obtain rfl : c = d := (List.cons.inj hcs).1
  exact hname.startsWord

/-- Where a key with its value is found, one may start. -/
theorem pairMayStart_of_matchAt? {before : Option Char} {c : Char} {cs : List Char} {m : Match}
    (h : matchAt? pair.body ⟨0, before, c :: cs⟩ = some m) : pairMayStart before c = true := by
  obtain ⟨hedge, p, rest, -, hcs, -⟩ := exists_pair h
  obtain ⟨word, hword, hkey⟩ := p.key_spells
  have hall : ∀ word ∈ keyWords, caselessSets word ≠ [] := by decide
  obtain ⟨d, ds, hd⟩ := hkey.exists_cons (hall word hword)
  rw [hd] at hkey
  rw [Pair.text, hd] at hcs
  obtain rfl : c = d := (List.cons.inj hcs).1
  rw [pairMayStart, ← wordEdge_holds_cons before _ cs, hedge, Bool.true_and, List.any_eq_true]
  exact ⟨word, hword, hkey.startsWord⟩

/-! ## Signs that every match has -/

/-- A login reaches the colon of its scheme before a mark that no scheme has. -/
theorem signBefore_inUrl {mark : Char} (hletter : letterSet.contains mark = false)
    (hscheme : schemeSet.contains mark = false) : SignBefore inUrl.body mark [':'] := by
  intro before cs m h
  obtain ⟨-, l, rest, rfl, -⟩ := exists_login h
  refine ⟨l.initial :: l.others, ':', _, by simp [Login.text, Login.scheme, slashes]; rfl, ?_, by simp⟩
  rw [List.mem_cons, not_or]
  refine ⟨?_, notMem_of_contains l.others_mem hscheme⟩
  rintro rfl
  rw [l.initial_mem] at hletter
  cases hletter

/-- An authorization header reaches its colon before a mark that its name does not have. -/
theorem signBefore_header {mark : Char}
    (hname : ∀ s ∈ caselessSets "authorization", s.contains mark = false)
    (hblank : blankSet.contains mark = false) : SignBefore header.body mark [':'] := by
  intro before cs m h
  obtain ⟨a, rest, -, rfl, -⟩ := exists_authorization h
  refine ⟨a.name ++ a.gap, ':', _, by simp [Authorization.text, Authorization.opening]; rfl, ?_,
    by simp⟩
  rw [List.mem_append, not_or]
  exact ⟨a.name_spells.notMem hname, notMem_of_contains a.gap_mem hblank⟩

/-- Before an at sign, a key with its value has a sign of its own. -/
theorem signBefore_pair : SignBefore pair.body '@' ['=', ':'] := by
  intro before cs m h
  obtain ⟨-, p, rest, -, rfl, -⟩ := exists_pair h
  obtain ⟨word, hword, hkey⟩ := p.key_spells
  have hall : ∀ word ∈ keyWords, ∀ s ∈ caselessSets word, s.contains '@' = false := by decide
  refine ⟨p.key ++ (p.quote ++ p.gap), p.sign, _, by simp [Pair.text, Pair.sep]; rfl, ?_,
    (CharSet.contains_ofChars _ _).mp p.sign_mem⟩
  rw [List.mem_append, List.mem_append, not_or, not_or]
  exact ⟨hkey.notMem (hall word hword), notMem_of_contains p.quote_mem (by decide),
    notMem_of_contains p.gap_mem (by decide)⟩

end Credentials

end ClusterMonitor

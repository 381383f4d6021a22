/-!
# Dictionaries with text keys

A dictionary is a list of entries kept in the order of its keys (by code point).

* `Dict.get?` looks a key up, `Dict.set` writes one entry, `Dict.ofPairs` writes many, the last one
  of a key winning.
* `get?_set_self` and `get?_set_of_ne` describe a write through look-ups. They need no hypothesis on
  the order of the entries, since `set` replaces or inserts in one pass.
* `Dict.Ordered` says that the keys increase strictly; `set` keeps it.
-/

namespace ClusterMonitor

/-- Entries of a dictionary, in the order of their keys. -/
abbrev Dict (α : Type) := List (String × α)

namespace Dict

variable {α β : Type}

/-- The value of the first entry with this key. -/
def get? : Dict α → String → Option α
  | [], _ => none
  | (k, x) :: rest, key => if k = key then some x else get? rest key

/-- Is there an entry with this key? -/
def contains (d : Dict α) (key : String) : Bool := (get? d key).isSome

/-- Writes one entry: in place of the entry with the same key, else before the first larger key. -/
def set : Dict α → String → α → Dict α
  | [], key, v => [(key, v)]
  | (k, x) :: rest, key, v =>
    if key < k then (key, v) :: (k, x) :: rest
    else if k = key then (key, v) :: rest
    else (k, x) :: set rest key v

/-- The keys, in order. -/
def keys (d : Dict α) : List String := List.map Prod.fst d

/-- Writes the pairs one after another, so that the last one of a key wins. -/
def ofPairs (pairs : List (String × α)) : Dict α :=
  pairs.foldl (fun d p => set d p.1 p.2) []

/-- The dictionary with a function applied to each value. -/
def mapValues (f : α → β) (d : Dict α) : Dict β := List.map (fun p => (p.1, f p.2)) d

/-- The keys increase strictly. -/
def Ordered (d : Dict α) : Prop := d.Pairwise (fun a b => a.1 < b.1)

@[simp] theorem get?_nil (key : String) : get? ([] : Dict α) key = none := rfl

/-- A value that is written is found under its key. -/
theorem get?_set_self (d : Dict α) (key : String) (v : α) : get? (set d key v) key = some v := by
  induction d with
  | nil => simp [set, get?]
  | cons e rest ih =>
    obtain ⟨k, x⟩ := e
    unfold set
    split
    · simp [get?]
    · split
      · simp [get?]
      · rename_i h; simp [get?, h, ih]

/-- A write leaves all other keys alone. -/
theorem get?_set_of_ne {key other : String} (d : Dict α) (v : α) (h : other ≠ key) :
    get? (set d key v) other = get? d other := by
  induction d with
  | nil => simp [set, get?, Ne.symm h]
  | cons e rest ih =>
    obtain ⟨k, x⟩ := e
    unfold set
    split
    · simp [get?, Ne.symm h]
    · split
      · rename_i hk; subst hk; simp [get?, Ne.symm h]
      · simp [get?, ih]

end Dict

end ClusterMonitor

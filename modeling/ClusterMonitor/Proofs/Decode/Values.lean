import ClusterMonitor.Proofs.Decode.Record
import ClusterMonitor.Proofs.Value

/-!
# Values as nodes and back

A value that is put into a document is found there again, whatever it is made of.

* `Value.AllScalars` — a property of every scalar inside a value.
* `Value.Storable` — what every value of a document is.
* `Node.value?_ofValue`, `Decode.value_ofValue` — a storable value is decoded from its own node.
* `Node.depth_lt_of_mem` — the members of a node are less deep than the node.
-/

namespace ClusterMonitor

namespace Value

mutual

/-- Every scalar inside the value has a property. -/
def AllScalars (P : Value → Prop) : Value → Prop
  | .array items => AllScalarsOfItems P items
  | .object members => AllScalarsOfMembers P members
  | v => P v

/-- The same for every item. -/
def AllScalarsOfItems (P : Value → Prop) : List Value → Prop
  | [] => True
  | v :: rest => AllScalars P v ∧ AllScalarsOfItems P rest

/-- The same for every member. -/
def AllScalarsOfMembers (P : Value → Prop) : List (String × Value) → Prop
  | [] => True
  | (_, v) :: rest => AllScalars P v ∧ AllScalarsOfMembers P rest

end

/-- All scalars of some items have a property if those of each item do. -/
theorem allScalarsOfItems_iff (P : Value → Prop) (items : List Value) :
    AllScalarsOfItems P items ↔ ∀ v ∈ items, v.AllScalars P := by
  induction items with
  | nil => simp [AllScalarsOfItems]
  | cons v rest ih => simp [AllScalarsOfItems, ih]

theorem allScalarsOfMembers_iff (P : Value → Prop) (members : Dict Value) :
    AllScalarsOfMembers P members ↔ ∀ m ∈ members, m.2.AllScalars P := by
  induction members with
  | nil => simp [AllScalarsOfMembers]
  | cons m rest ih =>
    obtain ⟨key, v⟩ := m
    simp only [AllScalarsOfMembers, ih, List.forall_mem_cons]

mutual

/-- A property of scalars that can be decided can be decided of all scalars inside a value. -/
def decideAllScalars (P : Value → Prop) [DecidablePred P] : ∀ v : Value, Decidable (AllScalars P v)
  | .array items => decideAllScalarsOfItems P items
  | .object members => decideAllScalarsOfMembers P members
  | .null => inferInstanceAs (Decidable (P .null))
  | .bool b => inferInstanceAs (Decidable (P (.bool b)))
  | .int n => inferInstanceAs (Decidable (P (.int n)))
  | .float x => inferInstanceAs (Decidable (P (.float x)))
  | .string s => inferInstanceAs (Decidable (P (.string s)))

/-- The same for every item. -/
def decideAllScalarsOfItems (P : Value → Prop) [DecidablePred P] :
    ∀ items : List Value, Decidable (AllScalarsOfItems P items)
  | [] => .isTrue trivial
  | v :: rest =>
    match decideAllScalars P v, decideAllScalarsOfItems P rest with
    | .isTrue hv, .isTrue hrest => .isTrue ⟨hv, hrest⟩
    | .isFalse hv, _ => .isFalse fun h => hv h.1
    | _, .isFalse hrest => .isFalse fun h => hrest h.2

/-- The same for every member. -/
def decideAllScalarsOfMembers (P : Value → Prop) [DecidablePred P] :
    ∀ members : List (String × Value), Decidable (AllScalarsOfMembers P members)
  | [] => .isTrue trivial
  | (_, v) :: rest =>
    match decideAllScalars P v, decideAllScalarsOfMembers P rest with
    | .isTrue hv, .isTrue hrest => .isTrue ⟨hv, hrest⟩
    | .isFalse hv, _ => .isFalse fun h => hv h.1
    | _, .isFalse hrest => .isFalse fun h => hrest h.2

end

instance (P : Value → Prop) [DecidablePred P] : DecidablePred (AllScalars P) := decideAllScalars P

/-- A scalar that documents have: an integer has 64 bits, with a sign or without, and a float has
a place on the number line. -/
def Fits : Value → Prop
  | .int n => -9223372036854775808 ≤ n ∧ n ≤ 18446744073709551615
  | .float x => x.isFinite = true
  | _ => True

/-- What every value of a document is. -/
structure Storable (v : Value) : Prop where
  wellFormed : v.WellFormed
  fits : v.AllScalars Fits

/-- An array can be stored if its items can. -/
theorem storable_array {items : List Value} :
    (Value.array items).Storable ↔ ∀ v ∈ items, v.Storable := by
  constructor
  · intro h v hv
    exact ⟨wellFormed_array.mp h.wellFormed v hv, (allScalarsOfItems_iff _ _).mp h.fits v hv⟩
  · intro h
    exact ⟨wellFormed_array.mpr fun v hv => (h v hv).wellFormed,
      (allScalarsOfItems_iff _ _).mpr fun v hv => (h v hv).fits⟩

/-- An object can be stored if its members are in order and its values can be stored. -/
theorem storable_object {members : Dict Value} :
    (Value.object members).Storable ↔ Dict.Ordered members ∧ ∀ m ∈ members, m.2.Storable := by
  constructor
  · intro h
    obtain ⟨hordered, hwf⟩ := wellFormed_object.mp h.wellFormed
    exact ⟨hordered, fun m hm => ⟨hwf m hm, (allScalarsOfMembers_iff _ _).mp h.fits m hm⟩⟩
  · rintro ⟨hordered, h⟩
    exact ⟨wellFormed_object.mpr ⟨hordered, fun m hm => (h m hm).wellFormed⟩,
      (allScalarsOfMembers_iff _ _).mpr fun m hm => (h m hm).fits⟩

theorem ofFloat_of_isFinite {x : Float} (h : x.isFinite = true) : ofFloat x = .float x := by
  simp [ofFloat, h]

end Value

namespace Node

open Value (AllScalars AllScalarsOfItems AllScalarsOfMembers Fits)

mutual

/-- A node that was made of a value has this value. -/
theorem value?_ofValue : ∀ v : Value, v.WellFormed → v.AllScalars Fits → (ofValue v).value? = some v
  | .null, _, _ => rfl
  | .bool _, _, _ => rfl
  | .int _, _, _ => rfl
  | .float _, _, hfits => congrArg some (Value.ofFloat_of_isFinite hfits)
  | .string _, _, _ => rfl
  | .array items, hwf, hfits => by
    have hitems := itemValues?_ofItems items hwf hfits
    rw [ofValue, value?, hitems]
    rfl
  | .object members, hwf, hfits => by
    have hmembers := memberValues?_ofMembers members [] hwf.1 hwf.2 hfits
    rw [ofValue, value?, hmembers]
    rfl

theorem itemValues?_ofItems : ∀ items : List Value, Value.WellFormedItems items →
    AllScalarsOfItems Fits items → itemValues? (ofItems items) = some items
  | [], _, _ => rfl
  | v :: rest, hwf, hfits => by
    have hv := value?_ofValue v hwf.1 hfits.1
    have hrest := itemValues?_ofItems rest hwf.2 hfits.2
    simp only [ofItems, itemValues?, hv, hrest]

/-- Members in order are written behind those that are written already. -/
theorem memberValues?_ofMembers : ∀ (members written : Dict Value),
    Dict.Ordered (written ++ members) → Value.WellFormedMembers members →
      AllScalarsOfMembers Fits members →
        memberValues? written (ofMembers members) = some (written ++ members)
  | [], written, _, _, _ => by
    rw [List.append_nil]
    rfl
  | (key, v) :: rest, written, hordered, hwf, hfits => by
    have hv := value?_ofValue v hwf.1 hfits.1
    have hset := Dict.set_of_ordered hordered
    rw [List.append_cons] at hordered ⊢
    have hrest := memberValues?_ofMembers rest (written ++ [(key, v)]) hordered hwf.2 hfits.2
    simp only [ofMembers, memberValues?, hv, hset, hrest]

end

/-- No member is deeper than all of them. -/
theorem depth_le_of_mem {members : List (String × Node)} {m : String × Node} (h : m ∈ members) :
    m.2.depth ≤ depthOfMembers members := by
  induction members with
  | nil => cases h
  | cons first rest ih =>
    obtain ⟨key, n⟩ := first
    rw [depthOfMembers]
    rcases List.mem_cons.mp h with rfl | h
    · exact le_max_left _ _
    · exact (ih h).trans (le_max_right _ _)

/-- A member is less deep than the object that it is in. -/
theorem depth_lt_of_mem {members : Dict Value} {key : String} {v : Value}
    (h : (key, v) ∈ members) : (ofValue v).depth < (ofValue (.object members)).depth := by
  have hmem : (key, ofValue v) ∈ ofMembers members := by
    rw [ofMembers_eq]
    exact List.mem_map_of_mem (f := fun m => (m.1, ofValue m.2)) h
  rw [ofValue, depth]
  exact Nat.lt_succ_of_le (depth_le_of_mem hmem)

end Node

theorem Decode.value_ofValue {v : Value} (h : v.Storable) : value (Node.ofValue v) = .ok v := by
  rw [value, Node.value?_ofValue v h.wellFormed h.fits]

end ClusterMonitor

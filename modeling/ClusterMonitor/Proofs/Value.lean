import ClusterMonitor.Proofs.Dict
import ClusterMonitor.Value

/-!
# Well-formed values

What a well-formed value is made of is well-formed again, and its objects have each key once.

* `Value.wellFormed_array`, `Value.wellFormed_object`, `Value.WellFormed.get?` — the parts of a
  well-formed value.
* `Value.WellFormed.nodup_keys` — the keys of an object.
-/

namespace ClusterMonitor.Value

/-- Items are well-formed if each of them is. -/
theorem wellFormedItems_iff (items : List Value) :
    WellFormedItems items ↔ ∀ v ∈ items, v.WellFormed := by
  induction items with
  | nil => simp [WellFormedItems]
  | cons v rest ih => simp [WellFormedItems, ih]

/-- Members are well-formed if each value is. -/
theorem wellFormedMembers_iff (members : Dict Value) :
    WellFormedMembers members ↔ ∀ m ∈ members, m.2.WellFormed := by
  induction members with
  | nil => simp [WellFormedMembers]
  | cons m rest ih =>
    obtain ⟨key, v⟩ := m
    simp only [WellFormedMembers, ih, List.forall_mem_cons]

/-- An array is well-formed if its items are. -/
theorem wellFormed_array {items : List Value} :
    (Value.array items).WellFormed ↔ ∀ v ∈ items, v.WellFormed := by
  rw [WellFormed, wellFormedItems_iff]

/-- An object is well-formed if its members are in order and its values well-formed. -/
theorem wellFormed_object {members : Dict Value} :
    (Value.object members).WellFormed ↔
      Dict.Ordered members ∧ ∀ m ∈ members, m.2.WellFormed := by
  rw [WellFormed, wellFormedMembers_iff]

namespace WellFormed

/-- A well-formed object has no key twice. -/
theorem nodup_keys {members : Dict Value} (h : (Value.object members).WellFormed) :
    (Dict.keys members).Nodup :=
  Dict.nodup_keys_of_ordered (wellFormed_object.mp h).1

/-- What is found in a well-formed object is well-formed. -/
theorem get?_object {members : Dict Value} (h : (Value.object members).WellFormed) {key : String}
    {v : Value} (hv : Dict.get? members key = some v) : v.WellFormed :=
  (wellFormed_object.mp h).2 (key, v) (Dict.mem_of_get?_eq_some hv)

theorem get? {v : Value} (h : v.WellFormed) {key : String} {w : Value}
    (hw : v.get? key = some w) : w.WellFormed := by
  cases v with
  | object members => exact h.get?_object hw
  | _ => cases hw

end WellFormed

end ClusterMonitor.Value

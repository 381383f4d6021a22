import ClusterMonitor.Proofs.Decode.Record

/-!
# What a record takes from its members

A member with the name of a field is taken up by the record, and stays taken up, since no other
member has its name.

* `Decode.TakesUp` — what the fields of a record do with the nodes of their members.
* `Decode.fromMembers_takesUp`, `Decode.record_takesUp` — each member with a field is taken up.
* `Decode.tagged_eq_ok` — what a record of one of several kinds is decoded from.
* `Decode.text_ofValue_iff`, `Decode.list_ofValue_iff` — decoders on the nodes of values.
-/

namespace ClusterMonitor

/-! ## Nodes of values -/

namespace Node

mutual

/-- The scalars of a value have no texts to lose. -/
theorem firm_ofValue : ∀ v : Value, (ofValue v).firm = ofValue v
  | .array items => by rw [ofValue, firm, firmItems_ofItems items]
  | .object members => by rw [ofValue, firm, firmMembers_ofMembers members]
  | .null => rfl
  | .bool _ => rfl
  | .int _ => rfl
  | .float _ => rfl
  | .string _ => rfl

theorem firmItems_ofItems : ∀ items : List Value, firmItems (ofItems items) = ofItems items
  | [] => rfl
  | v :: rest => by rw [ofItems, firmItems, firm_ofValue v, firmItems_ofItems rest]

theorem firmMembers_ofMembers :
    ∀ members : List (String × Value), firmMembers (ofMembers members) = ofMembers members
  | [] => rfl
  | (k, v) :: rest => by rw [ofMembers, firmMembers, firm_ofValue v, firmMembers_ofMembers rest]

end

/-- A member of a node is found where it is found in the value. -/
theorem get?_ofMembers (members : Dict Value) (key : String) :
    Dict.get? (ofMembers members) key = (Dict.get? members key).map ofValue := by
  rw [ofMembers_eq]
  exact Dict.get?_mapEntries (fun _ => ofValue) members key

/-- What is found in a value is a member of its node. -/
theorem mem_ofMembers_of_get? {members : Dict Value} {key : String} {v : Value}
    (h : Dict.get? members key = some v) : (key, ofValue v) ∈ ofMembers members := by
  apply Dict.mem_of_get?_eq_some
  rw [get?_ofMembers, h]
  rfl

end Node

namespace Decode

/-! ## Scalars and lists of values -/

/-- A value is decoded as a text just if it is this text. -/
theorem text_ofValue_iff {v : Value} {x : String} :
    text (Node.ofValue v) = .ok x ↔ v = .string x := by
  cases v <;> simp [text, Node.ofValue, Node.bare, mismatch]

/-- Of a value that is not null, an optional decoder makes what the decoder makes. -/
theorem optional_ofValue_of_ne_null {α : Type} (d : Node → Decoded α) {v : Value} (h : v ≠ .null) :
    optional d (Node.ofValue v) = (d (Node.ofValue v)).map some := by
  cases v with
  | null => exact absurd rfl h
  | _ => rfl

/-- A value is decoded as an integer just if it is this integer, within the bounds. -/
theorem integer_ofValue_iff {low high : Int} {expected : String} {v : Value} {x : Int} :
    integer low high expected (Node.ofValue v) = .ok x ↔ v = .int x ∧ low ≤ x ∧ x ≤ high := by
  cases v with
  | int n =>
    simp only [integer, Node.ofValue, Node.bare, Value.int.injEq]
    split
    · rename_i hbounds
      constructor
      · rintro ⟨⟩
        exact ⟨rfl, hbounds⟩
      · rintro ⟨rfl, -⟩
        rfl
    · rename_i hbounds
      constructor
      · intro h
        cases h
      · rintro ⟨rfl, h⟩
        exact absurd h hbounds
  | _ => simp [integer, Node.ofValue, Node.bare, mismatch]

/-- A value is decoded as a list if it is an array, item by item. -/
theorem list_ofValue_iff {α : Type} {d : Node → Decoded α} {v : Value} {xs : List α} :
    list d (Node.ofValue v) = .ok xs ↔
      ∃ items, v = .array items ∧
        List.Forall₂ (fun item x => d (Node.ofValue item) = .ok x) items xs := by
  cases v with
  | array items =>
    have hlist : list d (Node.ofValue (.array items)) = (items.map Node.ofValue).mapM d := by
      rw [Node.ofValue, Node.ofItems_eq]
      rfl
    rw [hlist, mapM_eq_ok_iff, List.forall₂_map_left_iff]
    simp
  | _ => simp [list, Node.ofValue, Node.bare, mismatch]

/-! ## Members with a field -/

variable {σ : Type} {fields : List (Field σ)} {Took : String → Node → σ → Prop}

/-- Each field takes up the node that it is written from, and leaves alone what others have taken
up. -/
structure TakesUp (Took : String → Node → σ → Prop) (fields : List (Field σ)) : Prop where
  takes : ∀ f ∈ fields, ∀ s n s', f.write s n = .ok s' → Took f.name n s'
  keeps : ∀ f ∈ fields, ∀ s n s', f.write s n = .ok s' →
    ∀ name m, name ≠ f.name → Took name m s → Took name m s'

/-- Each member with a field is taken up. A name that has been seen is not written again. -/
theorem fromMembers_takesUp (h : TakesUp Took fields) {members : List (String × Node)} {s s' : σ}
    {seen seen' : List String} (hread : fromMembers fields s seen members = .ok (s', seen')) :
    (∀ name ∈ seen, ∀ m, Took name m s → Took name m s') ∧
      ∀ m ∈ members, (∃ f ∈ fields, f.name = m.1) → Took m.1 m.2 s' := by
  induction members generalizing s seen with
  | nil =>
    cases hread
    exact ⟨fun _ _ _ ht => ht, by simp⟩
  | cons member rest ih =>
    obtain ⟨k, n⟩ := member
    unfold fromMembers at hread
    split at hread
    · -- no field has this name
      rename_i hfind
      obtain ⟨hseen, hrest⟩ := ih hread
      refine ⟨hseen, List.forall_mem_cons.mpr ⟨?_, hrest⟩⟩
      rintro ⟨f, hf, hname⟩
      have hnone := List.find?_eq_none.mp hfind f hf
      simp [hname] at hnone
    · rename_i f hfind
      have hf : f ∈ fields := List.mem_of_find?_eq_some hfind
      have hname : f.name = k := by simpa using List.find?_some hfind
      split at hread
      · cases hread
      · rename_i hnew
        split at hread
        · rename_i t ht
          obtain ⟨hseen, hrest⟩ := ih hread
          have htook : Took k n t := hname ▸ h.takes f hf s n t ht
          refine ⟨?_, List.forall_mem_cons.mpr ⟨?_, hrest⟩⟩
          · intro name hmem m hm
            have hne : name ≠ f.name := by
              rintro rfl
              rw [hname] at hmem
              exact hnew (by simpa using hmem)
            exact hseen name (List.mem_cons_of_mem _ hmem) m (h.keeps f hf s n t ht name m hne hm)
          · exact fun _ => hseen k List.mem_cons_self n htook
        · cases hread

/-- A record that is made of a mapping takes up each member that it has a field for. -/
theorem ofMapping_takesUp (h : TakesUp Took fields) {start s : σ} {members : List (String × Node)}
    (hread : ofMapping fields start members = .ok s) :
    ∀ m ∈ members, (∃ f ∈ fields, f.name = m.1) → Took m.1 m.2 s := by
  unfold ofMapping at hread
  split at hread
  · cases hread
  · rename_i hmembers
    split at hread
    · cases hread
    · cases hread
      exact (fromMembers_takesUp h hmembers).2

/-- A record that is decoded from an object takes up each member that it has a field for. -/
theorem record_takesUp (h : TakesUp Took fields) {shape : String} {start s : σ}
    {members : Dict Value}
    (hread : record shape fields start (Node.ofValue (.object members)) = .ok s)
    {name : String} {v : Value} (hv : Dict.get? members name = some v)
    (hfield : ∃ f ∈ fields, f.name = name) : Took name (Node.ofValue v) s := by
  have hmapping : ofMapping fields start (Node.ofMembers members) = .ok s := hread
  exact ofMapping_takesUp h hmapping _ (Node.mem_ofMembers_of_get? hv) hfield

/-! ## Members of one of several kinds -/

section Kinds

variable {α : Type} {tag : String} {known : List (String × α)}

/-- A kind is named by a string that is known. -/
theorem kindName_eq_ok {n : Node} {a : α} (h : kindName known n = .ok a) :
    ∃ name t, n = .scalar (.string name) t ∧ known.lookup name = some a := by
  unfold kindName at h
  split at h
  · rename_i name t
    split at h
    · rename_i hlookup
      cases h
      exact ⟨name, t, rfl, hlookup⟩
    · cases h
  · cases h

/-- The kind is found under its tag, where it is looked for once, and all other members are left. -/
theorem splitKind_eq_ok {kind : Option α} {others others' members : List (String × Node)} {a : α}
    (h : splitKind tag known kind others members = .ok (some a, others')) :
    ((kind = none ∧ ∃ n, Dict.get? members tag = some n ∧ kindName known n = .ok a) ∨
        kind = some a) ∧
      (∀ m ∈ others, m ∈ others') ∧ ∀ m ∈ members, m.1 ≠ tag → m ∈ others' := by
  induction members generalizing kind others with
  | nil =>
    cases h
    exact ⟨Or.inr rfl, by simp, by simp⟩
  | cons member rest ih =>
    obtain ⟨k, n⟩ := member
    unfold splitKind at h
    split at h
    · rename_i htag
      split at h
      · cases h
      · split at h
        · rename_i b hb
          obtain ⟨hkind, hothers, hrest⟩ := ih h
          refine ⟨Or.inl ⟨rfl, n, by simp [Dict.get?, htag], ?_⟩, hothers,
            List.forall_mem_cons.mpr ⟨fun hne => absurd htag hne, hrest⟩⟩
          -- a second kind would have been refused
          rcases hkind with ⟨hnone, -⟩ | hkind
          · cases hnone
          · cases hkind
            exact hb
        · cases h
    · rename_i htag
      obtain ⟨hkind, hothers, hrest⟩ := ih h
      refine ⟨?_, fun m hm => hothers m (List.mem_cons_of_mem _ hm),
        List.forall_mem_cons.mpr ⟨fun _ => hothers _ List.mem_cons_self, hrest⟩⟩
      rcases hkind with ⟨hnone, n', hn', hkind⟩ | hkind
      · exact Or.inl ⟨hnone, n', by simp [Dict.get?, htag, hn'], hkind⟩
      · exact Or.inr hkind

/-- The kind of an object is named by its member under the tag. -/
theorem kind_of_splitKind {members : Dict Value} {others : List (String × Node)} {a : α}
    (h : splitKind tag known none [] (Node.ofMembers members) = .ok (some a, others)) :
    ∃ name, Dict.get? members tag = some (.string name) ∧ known.lookup name = some a := by
  obtain ⟨hkind, -, -⟩ := splitKind_eq_ok h
  rcases hkind with ⟨-, n, hn, hkind⟩ | hkind
  · obtain ⟨name, t, rfl, hlookup⟩ := kindName_eq_ok hkind
    rw [Node.get?_ofMembers] at hn
    obtain ⟨v, hv, hnode⟩ := Option.map_eq_some_iff.mp hn
    have hname : v = .string name := by
      cases v <;> simp_all [Node.ofValue]
    exact ⟨name, hname ▸ hv, hlookup⟩
  · cases hkind

/-- A record of one of several kinds that is decoded from an object has its kind under the tag, and
is decoded from all other members. -/
theorem tagged_eq_ok {body : α → String × List (Field σ) × σ} {shape : String} {s : σ}
    {members : Dict Value}
    (h : tagged shape tag known body (Node.ofValue (.object members)) = .ok s) :
    ∃ name a others, Dict.get? members tag = some (.string name) ∧ known.lookup name = some a ∧
      ofMapping (body a).2.1 (body a).2.2 others = .ok s ∧
      ∀ key v, Dict.get? members key = some v → key ≠ tag → (key, Node.ofValue v) ∈ others := by
  unfold tagged at h
  rw [Node.firm_ofValue, Node.ofValue] at h
  simp only at h
  split at h
  · cases h
  · cases h
  · rename_i a others hsplit
    obtain ⟨name, hname, hlookup⟩ := kind_of_splitKind hsplit
    obtain ⟨-, -, hothers⟩ := splitKind_eq_ok hsplit
    refine ⟨name, a, others, hname, hlookup, h, ?_⟩
    exact fun key w hw hne => hothers _ (Node.mem_ofMembers_of_get? hw) hne

end Kinds

end Decode

end ClusterMonitor

import ClusterMonitor.Decode.Basic
import ClusterMonitor.Proofs.Dict
import Mathlib.Data.List.Forall2

/-!
# Records from mappings

A record is decoded by writing member after member into it. Two facts about this serve all records:
what every write keeps holds of the result, and a mapping with different known keys is decoded by
its writes alone.

* `Decode.record_keeps` and `Decode.tagged_keeps` — an invariant of the fields holds of the result.
* `Decode.ofMapping_of_writes`, `Decode.tagged_of_last` — the result of decoding a mapping.
* `Decode.exists_of_mem_list` — each item of a decoded list comes from an item of the node.
-/

namespace ClusterMonitor

/-! ## Nodes of values -/

/-- The members of a node are those of the value, each as a node. -/
theorem Node.ofMembers_eq (members : Dict Value) :
    ofMembers members = Dict.mapValues ofValue members := by
  induction members with
  | nil => rfl
  | cons m rest ih => rw [ofMembers, ih]; rfl

theorem Node.ofItems_eq (items : List Value) : ofItems items = items.map ofValue := by
  induction items with
  | nil => rfl
  | cons v rest ih => rw [ofItems, ih]; rfl

namespace Decode

variable {σ : Type} {fields : List (Field σ)}

/-! ## Results -/

section Results

variable {ε α β : Type}

/-- Two steps succeed if the first does, and the second does with its result. -/
theorem bind_eq_ok_iff {x : Except ε α} {f : α → Except ε β} {b : β} :
    (x >>= f) = .ok b ↔ ∃ a, x = .ok a ∧ f a = .ok b := by
  cases x with
  | error e =>
    constructor
    · intro h
      cases h
    · rintro ⟨a, h, -⟩
      cases h
  | ok a =>
    constructor
    · exact fun h => ⟨a, rfl, h⟩
    · rintro ⟨a', h, hf⟩
      cases h
      exact hf

/-- A mapped result comes from a result. -/
theorem map_eq_ok_iff {x : Except ε α} {f : α → β} {b : β} :
    x.map f = .ok b ↔ ∃ a, x = .ok a ∧ f a = b := by
  cases x <;> simp [Except.map]

/-- Two results that a function makes the same are the same error, or values that it makes the
same. -/
theorem results_of_map_eq {x y : Except ε α} {f : α → β} (h : x.map f = y.map f) :
    (∃ e, x = .error e ∧ y = .error e) ∨ ∃ a b, x = .ok a ∧ y = .ok b ∧ f a = f b := by
  rcases x with e | a <;> rcases y with e' | b
  · cases h
    exact Or.inl ⟨e, rfl, rfl⟩
  · cases h
  · cases h
  · exact Or.inr ⟨a, b, rfl, rfl, Except.ok.inj h⟩

theorem toOption_eq_some_iff {x : Except ε α} {a : α} : x.toOption = some a ↔ x = .ok a := by
  cases x <;> simp [Except.toOption]

/-- Decoding a list succeeds with the results of its items, one by one. -/
theorem mapM_eq_ok_iff {f : α → Except ε β} {xs : List α} {ys : List β} :
    xs.mapM f = .ok ys ↔ List.Forall₂ (fun x y => f x = .ok y) xs ys := by
  induction xs generalizing ys with
  | nil =>
    rw [List.mapM_nil, List.forall₂_nil_left_iff]
    exact ⟨fun h => by cases h; rfl, fun h => by rw [h]; rfl⟩
  | cons x xs ih =>
    rw [List.mapM_cons, bind_eq_ok_iff]
    constructor
    · rintro ⟨y, hx, h⟩
      obtain ⟨ys', hxs, h⟩ := bind_eq_ok_iff.mp h
      cases h
      exact .cons hx (ih.mp hxs)
    · rintro (_ | ⟨hx, hxs⟩)
      exact ⟨_, hx, bind_eq_ok_iff.mpr ⟨_, ih.mpr hxs, rfl⟩⟩

/-- The error of a list is that of one of its items. -/
theorem exists_of_mapM_error {f : α → Except ε β} {xs : List α} {e : ε}
    (h : xs.mapM f = .error e) : ∃ x ∈ xs, f x = .error e := by
  induction xs with
  | nil => cases h
  | cons x xs ih =>
    rw [List.mapM_cons] at h
    cases hx : f x with
    | error e' =>
      rw [hx] at h
      cases h
      exact ⟨x, List.mem_cons_self, hx⟩
    | ok y =>
      cases hxs : xs.mapM f with
      | error e' =>
        rw [hx, hxs] at h
        cases h
        obtain ⟨x', hmem, hx'⟩ := ih hxs
        exact ⟨x', List.mem_cons_of_mem x hmem, hx'⟩
      | ok ys =>
        rw [hx, hxs] at h
        cases h

/-- Decoding a list succeeds if decoding each of its items does. -/
theorem exists_mapM_eq_ok_iff {f : α → Except ε β} {xs : List α} :
    (∃ ys, xs.mapM f = .ok ys) ↔ ∀ x ∈ xs, ∃ y, f x = .ok y := by
  constructor
  · rintro ⟨ys, h⟩
    have hall := mapM_eq_ok_iff.mp h
    clear h
    induction hall with
    | nil => simp
    | cons hx _ ih => exact List.forall_mem_cons.mpr ⟨⟨_, hx⟩, ih⟩
  · intro h
    cases hxs : xs.mapM f with
    | ok ys => exact ⟨ys, rfl⟩
    | error e =>
      obtain ⟨x, hx, he⟩ := exists_of_mapM_error hxs
      obtain ⟨y, hy⟩ := h x hx
      rw [he] at hy
      cases hy

end Results

/-- Each field keeps a property of the record that it is written into. -/
def Keeps (P : σ → Prop) (fields : List (Field σ)) : Prop :=
  ∀ f ∈ fields, ∀ s n s', P s → f.write s n = .ok s' → P s'

/-! ## What writes keep -/

section Keeps

variable {P : σ → Prop} {s s' : σ}

/-- What every write keeps is kept by writing all members. -/
theorem fromMembers_keeps (hkeeps : Keeps P fields) (hs : P s) {seen seen' : List String}
    {members : List (String × Node)}
    (h : fromMembers fields s seen members = .ok (s', seen')) : P s' := by
  induction members generalizing s seen with
  | nil =>
    cases h
    exact hs
  | cons m rest ih =>
    obtain ⟨k, n⟩ := m
    unfold fromMembers at h
    split at h
    · exact ih hs h
    · rename_i f hf
      split at h
      · cases h
      · split at h
        · rename_i t ht
          exact ih (hkeeps f (List.mem_of_find?_eq_some hf) s n t hs ht) h
        · cases h

theorem fromItems_keeps (hkeeps : Keeps P fields) (hs : P s) {shape : String}
    {total index : Nat} {defaults : Bool} {items rest : List Node}
    (h : fromItems shape total fields index defaults s items = .ok (s', rest)) : P s' := by
  induction fields generalizing s index items with
  | nil =>
    cases items <;>
    · cases h
      exact hs
  | cons f fields ih =>
    have hrest : Keeps P fields := fun g hg => hkeeps g (List.mem_cons_of_mem _ hg)
    cases items with
    | nil =>
      unfold fromItems at h
      split at h
      · exact ih hrest hs h
      · cases h
    | cons n items =>
      unfold fromItems at h
      split at h
      · rename_i t ht
        exact ih hrest (hkeeps f List.mem_cons_self s n t hs ht) h
      · cases h

theorem ofMapping_keeps (hkeeps : Keeps P fields) (hs : P s) {members : List (String × Node)}
    (h : ofMapping fields s members = .ok s') : P s' := by
  unfold ofMapping at h
  split at h
  · cases h
  · rename_i hmembers
    split at h
    · cases h
    · cases h
      exact fromMembers_keeps hkeeps hs hmembers

theorem ofSequence_keeps (hkeeps : Keeps P fields) (hs : P s) {shape : String}
    {surplus : Nat → Nat → DecodeError} {defaults : Bool} {items : List Node}
    (h : ofSequence shape surplus defaults fields s items = .ok s') : P s' := by
  unfold ofSequence at h
  split at h
  · cases h
  · rename_i hitems
    cases h
    exact fromItems_keeps hkeeps hs hitems
  · cases h

/-- What every field keeps holds of a decoded record. -/
theorem record_keeps (hkeeps : Keeps P fields) (hs : P s) {shape : String} {n : Node}
    (h : record shape fields s n = .ok s') : P s' := by
  unfold record at h
  split at h
  · exact ofMapping_keeps hkeeps hs h
  · exact ofSequence_keeps hkeeps hs h
  · exact ofMapping_keeps hkeeps hs h
  · cases h

/-- A kind that is named is one of those that are known. -/
theorem mem_of_kindName {α : Type} {known : List (String × α)} {n : Node} {a : α}
    (h : kindName known n = .ok a) : ∃ name, (name, a) ∈ known := by
  unfold kindName at h
  split at h
  · split at h
    · rename_i name _ _ b hlookup
      cases h
      obtain ⟨before, after, hknown, -⟩ := List.lookup_eq_some_iff.mp hlookup
      exact ⟨name, by simp [hknown]⟩
    · cases h
  · cases h

theorem mem_of_splitKind {α : Type} {tag : String} {known : List (String × α)}
    {kind : Option α} {others others' members : List (String × Node)} {a : α}
    (hkind : ∀ b, kind = some b → ∃ name, (name, b) ∈ known)
    (h : splitKind tag known kind others members = .ok (some a, others')) :
    ∃ name, (name, a) ∈ known := by
  induction members generalizing kind others with
  | nil =>
    cases h
    exact hkind a rfl
  | cons m rest ih =>
    obtain ⟨k, n⟩ := m
    unfold splitKind at h
    split at h
    · split at h
      · cases h
      · split at h
        · rename_i b hb
          refine ih ?_ h
          intro c hc
          cases hc
          exact mem_of_kindName hb
        · cases h
    · exact ih hkind h

/-- The same for a record of one of several kinds. -/
theorem tagged_keeps {α : Type} {shape tag : String} {known : List (String × α)}
    {body : α → String × List (Field σ) × σ}
    (hbody : ∀ kind ∈ known, P (body kind.2).2.2 ∧ Keeps P (body kind.2).2.1)
    {n : Node} (h : tagged shape tag known body n = .ok s') : P s' := by
  unfold tagged at h
  split at h
  · split at h
    · cases h
    · cases h
    · rename_i a others hsplit
      obtain ⟨name, hmem⟩ := mem_of_splitKind (fun b hb => by cases hb) hsplit
      obtain ⟨hstart, hkeeps⟩ := hbody _ hmem
      exact ofMapping_keeps hkeeps hstart h
  · cases h
  · split at h
    · cases h
    · rename_i a hkind
      obtain ⟨name, hmem⟩ := mem_of_kindName hkind
      obtain ⟨hstart, hkeeps⟩ := hbody _ hmem
      exact ofSequence_keeps hkeeps hstart h
  · cases h

end Keeps

/-! ## What writes make -/

/-- Writes one member into a record; a member that has no field is passed over. -/
def writeMember (fields : List (Field σ)) (s : σ) (m : String × Node) : Decoded σ :=
  match fields.find? (·.name == m.1) with
  | some f => f.write s m.2
  | none => .ok s

/-- Where no name comes twice, the members are written one after another, and each field that has
one is known to have been seen. -/
theorem fromMembers_of_writes {s final : σ} (seen : List String) {members : List (String × Node)}
    (hnodup : (members.map Prod.fst).Nodup) (hseen : ∀ k ∈ members.map Prod.fst, k ∉ seen)
    (hwrites : members.foldlM (writeMember fields) s = .ok final) :
    ∃ seen', fromMembers fields s seen members = .ok (final, seen') ∧ seen ⊆ seen' ∧
      ∀ f ∈ fields, f.name ∈ members.map Prod.fst → f.name ∈ seen' := by
  induction members generalizing s seen with
  | nil =>
    cases hwrites
    exact ⟨seen, rfl, List.Subset.refl _, by simp⟩
  | cons m rest ih =>
    obtain ⟨k, n⟩ := m
    obtain ⟨hhead, htail⟩ := List.nodup_cons.mp hnodup
    cases hfind : fields.find? (·.name == k) with
    | none =>
      -- no field has this name, so nothing changes
      have hstep : writeMember fields s (k, n) = .ok s := by simp [writeMember, hfind]
      rw [List.foldlM_cons, hstep] at hwrites
      obtain ⟨seen', hread, hsub, hnames⟩ :=
        ih seen htail (fun l hl => hseen l (List.mem_cons_of_mem _ hl)) hwrites
      refine ⟨seen', by simp [fromMembers, hfind, hread], hsub, ?_⟩
      intro f hf hmem
      rcases List.mem_cons.mp hmem with heq | hmem
      · have hnone := List.find?_eq_none.mp hfind f hf
        simp [heq] at hnone
      · exact hnames f hf hmem
    | some f =>
      have hstep : writeMember fields s (k, n) = f.write s n := by simp [writeMember, hfind]
      -- the key is new, so the write is made, and its success is the first step of the others
      have hk : k ∉ seen := hseen k List.mem_cons_self
      cases hwrite : f.write s n with
      | error e =>
        rw [List.foldlM_cons, hstep, hwrite] at hwrites
        cases hwrites
      | ok t =>
        rw [List.foldlM_cons, hstep, hwrite] at hwrites
        have hseen' : ∀ l ∈ rest.map Prod.fst, l ∉ k :: seen := by
          intro l hl hmem
          rcases List.mem_cons.mp hmem with rfl | hmem
          · exact hhead hl
          · exact hseen l (List.mem_cons_of_mem _ hl) hmem
        obtain ⟨seen', hread, hsub, hnames⟩ := ih (k :: seen) htail hseen' hwrites
        refine ⟨seen', ?_, fun l hl => hsub (List.mem_cons_of_mem _ hl), ?_⟩
        · simp [fromMembers, hfind, hk, hwrite, hread]
        · intro g hg hmem
          rcases List.mem_cons.mp hmem with heq | hmem
          · exact hsub (heq ▸ List.mem_cons_self)
          · exact hnames g hg hmem

/-- A mapping with different keys, all required ones among them, is decoded by its writes. -/
theorem ofMapping_of_writes {s final : σ} (members : List (String × Node))
    (hnodup : (members.map Prod.fst).Nodup)
    (hrequired : ∀ f ∈ fields, f.optional = false → f.name ∈ members.map Prod.fst)
    (hwrites : members.foldlM (writeMember fields) s = .ok final) :
    ofMapping fields s members = .ok final := by
  obtain ⟨seen, hread, -, hnames⟩ :=
    fromMembers_of_writes [] hnodup (by simp) hwrites
  have hmissing : missing? fields seen = none := by
    rw [missing?, Option.map_eq_none_iff, List.find?_eq_none]
    intro f hf
    cases hopt : f.optional with
    | true => simp
    | false => simpa using hnames f hf (hrequired f hf hopt)
  simp [ofMapping, hread, hmissing]

/-- A kind that is named by the last member is found there, with all other members left in their
order. -/
theorem splitKind_of_last {α : Type} {tag name : String} {known : List (String × α)} {a : α}
    (hname : known.lookup name = some a) {members : List (String × Node)}
    (hmembers : ∀ m ∈ members, m.1 ≠ tag) (others : List (String × Node)) :
    splitKind tag known none others (members ++ [(tag, .scalar (.string name) none)]) =
      .ok (some a, others.reverse ++ members) := by
  induction members generalizing others with
  | nil => simp [splitKind, kindName, hname]
  | cons m rest ih =>
    obtain ⟨k, n⟩ := m
    have hk : k ≠ tag := hmembers _ List.mem_cons_self
    have hrest := ih (fun m hm => hmembers m (List.mem_cons_of_mem _ hm)) ((k, n) :: others)
    simpa [splitKind, hk] using hrest

/-- A mapping that names its kind last is decoded as a record of this kind. -/
theorem tagged_of_last {α σ : Type} {shape tag name : String} {known : List (String × α)}
    {body : α → String × List (Field σ) × σ} {a : α} (hname : known.lookup name = some a)
    (members : List (String × Node)) (hmembers : ∀ m ∈ members, m.1 ≠ tag) {n : Node}
    (hn : n.firm = .mapping (members ++ [(tag, .scalar (.string name) none)])) :
    tagged shape tag known body n = ofMapping (body a).2.1 (body a).2.2 members := by
  unfold tagged
  rw [hn]
  simp only [splitKind_of_last hname hmembers]
  rfl

/-! ## Lists -/

theorem exists_of_mem_right {α β : Type} {R : α → β → Prop} {xs : List α} {ys : List β}
    (h : List.Forall₂ R xs ys) {y : β} (hy : y ∈ ys) : ∃ x ∈ xs, R x y := by
  induction h with
  | nil => cases hy
  | cons hxy _ ih =>
    rcases List.mem_cons.mp hy with rfl | hy
    · exact ⟨_, List.mem_cons_self, hxy⟩
    · obtain ⟨x, hx, hr⟩ := ih hy
      exact ⟨x, List.mem_cons_of_mem _ hx, hr⟩

/-- Each item of a decoded list comes from a node. -/
theorem exists_of_mem_list {α : Type} {d : Node → Decoded α} {n : Node} {xs : List α}
    (h : list d n = .ok xs) {x : α} (hx : x ∈ xs) : ∃ m, d m = .ok x := by
  unfold list at h
  split at h
  · obtain ⟨m, -, hm⟩ := exists_of_mem_right (mapM_eq_ok_iff.mp h) hx
    exact ⟨m, hm⟩
  · cases h
    cases hx
  · cases h

/-- A list is decoded from the document forms of its items if each item is. -/
theorem list_ofItems {α : Type} {d : Node → Decoded α} {form : α → Value} {xs : List α}
    (h : ∀ x ∈ xs, d (Node.ofValue (form x)) = .ok x) :
    list d (Node.ofValue (.array (xs.map form))) = .ok xs := by
  rw [Node.ofValue, Node.ofItems_eq, List.map_map]
  refine mapM_eq_ok_iff.mpr ?_
  induction xs with
  | nil => exact .nil
  | cons x rest ih =>
    exact .cons (h x List.mem_cons_self) (ih fun y hy => h y (List.mem_cons_of_mem _ hy))

/-! ## Members that may be left out -/

/-- Members are written in two parts, the second starting from what the first has made. -/
theorem foldlM_writeMember_append {s t u : σ} {a b : List (String × Node)}
    (ha : a.foldlM (writeMember fields) s = .ok t) (hb : b.foldlM (writeMember fields) t = .ok u) :
    (a ++ b).foldlM (writeMember fields) s = .ok u := by
  rw [List.foldlM_append, ha]
  exact hb

/-- A member that may be left out writes its field or leaves the record as it is. -/
theorem foldlM_writeMember_part {f : Field σ} {key : String} {v : Option Node} {s t : σ}
    (hfind : fields.find? (·.name == key) = some f)
    (hsome : ∀ n, v = some n → f.write s n = .ok t) (hnone : v = none → t = s) :
    (Dict.part key v).foldlM (writeMember fields) s = .ok t := by
  cases v with
  | none =>
    rw [hnone rfl]
    rfl
  | some n =>
    have hwrite : writeMember fields s (key, n) = .ok t := by
      simp [writeMember, hfind, hsome n rfl]
    simp [Dict.part, hwrite]

/-- A member that is always there writes its field. -/
theorem foldlM_given {α : Type} {d : Node → Decoded α} {f : Field σ} {s : σ}
    (fields : List (Field σ)) (key : String) (v : Value) (x : α) (set : α → σ)
    (hfind : fields.find? (·.name == key) = some f) (hwrite : ∀ n, f.write s n = (d n).map set)
    (hdecode : d (Node.ofValue v) = .ok x) :
    (Dict.mapValues Node.ofValue [(key, v)]).foldlM (writeMember fields) s = .ok (set x) := by
  simp [Dict.mapValues, writeMember, hfind, hwrite, hdecode, Except.map]

/-- A member that is left out when it is as in an empty record. -/
theorem foldlM_unless {α : Type} {d : Node → Decoded α} {f : Field σ} {s : σ}
    (fields : List (Field σ)) (key : String) (v : Option Value) (x : α) (set : α → σ)
    (hfind : fields.find? (·.name == key) = some f) (hwrite : ∀ n, f.write s n = (d n).map set)
    (hsome : ∀ w, v = some w → d (Node.ofValue w) = .ok x) (hnone : v = none → set x = s) :
    (Dict.part key (v.map Node.ofValue)).foldlM (writeMember fields) s = .ok (set x) := by
  refine foldlM_writeMember_part hfind ?_ ?_
  · intro n hn
    obtain ⟨w, hw, rfl⟩ := Option.map_eq_some_iff.mp hn
    rw [hwrite, hsome w hw]
    rfl
  · intro hn
    exact hnone (Option.map_eq_none_iff.mp hn)

/-- An optional field is written from the member that it has in the document form, if any. -/
theorem foldlM_optional {α : Type} {d : Node → Decoded α} {form : α → Value} {f : Field σ} {s : σ}
    (fields : List (Field σ)) (key : String) (v : Option α) (set : Option α → σ)
    (hfind : fields.find? (·.name == key) = some f)
    (hwrite : ∀ n, f.write s n = (optional d n).map set)
    (hform : ∀ x, v = some x →
      (Node.ofValue (form x)).isNull = false ∧ d (Node.ofValue (form x)) = .ok x)
    (hset : set none = s) :
    (Dict.part key ((v.map form).map Node.ofValue)).foldlM (writeMember fields) s =
      .ok (set v) := by
  refine foldlM_writeMember_part hfind ?_ ?_
  · intro n hn
    cases v with
    | none => cases hn
    | some x =>
      cases hn
      obtain ⟨hnull, hdecode⟩ := hform x rfl
      simp [hwrite, optional, hnull, hdecode, Except.map]
  · intro hn
    cases v with
    | none => exact hset
    | some x => cases hn

/-- A list that is left out of the document form when it is empty. -/
theorem foldlM_list {α : Type} {d : Node → Decoded α} {form : α → Value} {f : Field σ} {s : σ}
    (fields : List (Field σ)) (key : String) (xs : List α) (set : List α → σ)
    (hfind : fields.find? (·.name == key) = some f)
    (hwrite : ∀ n, f.write s n = (list d n).map set)
    (hform : ∀ x ∈ xs, d (Node.ofValue (form x)) = .ok x) (hset : set [] = s) :
    (Dict.part key ((if xs.isEmpty then none else some (.array (xs.map form))).map
      Node.ofValue)).foldlM (writeMember fields) s = .ok (set xs) := by
  refine foldlM_writeMember_part hfind ?_ ?_
  · intro n hn
    cases xs with
    | nil => cases hn
    | cons x rest =>
      cases hn
      rw [hwrite, list_ofItems hform]
      rfl
  · intro hn
    cases xs with
    | nil => exact hset
    | cons x rest => cases hn

end Decode

end ClusterMonitor

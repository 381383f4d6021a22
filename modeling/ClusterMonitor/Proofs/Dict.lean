import ClusterMonitor.Dict
import Mathlib.Data.List.Nodup
import Mathlib.Data.List.Perm.Basic
import Mathlib.Data.String.Basic

/-!
# Writing and looking up

What a dictionary holds after a write, after many, and in parts.

* `Dict.get?_set`, `Dict.get?_append`, `Dict.get?_ofPairs` — look-ups after writes.
* `Dict.mem_keys_iff` — the keys are what can be looked up.
* `Dict.get?_filterMap`, `Dict.get?_restrict` — look-ups where entries are dropped.
* `Dict.restrict_eq_of_get?_eq`, `Dict.filter_flatMap_eq` — what is chosen by key, and what comes of
  it.
* `Dict.part` — a member that is left out where there is no value for it.
* `Dict.mapEntries` — the values mapped by key, which look-ups and writes agree with.
* `Dict.ordered_ofPairs`, `Dict.ofPairs_eq_of_perm` — pairs with different keys are written in the
  order of their keys, whatever order they come in.
-/

namespace ClusterMonitor.Dict

variable {α : Type}

/-! ## Look-ups -/

/-- After a write, the written key has the written value, and all others have what they had. -/
theorem get?_set (d : Dict α) (key : String) (v : α) (name : String) :
    get? (set d key v) name = if name = key then some v else get? d name := by
  by_cases h : name = key
  · rw [h, if_pos rfl, get?_set_self]
  · rw [if_neg h, get?_set_of_ne d v h]

/-- A key is looked up in the first part, and in the second one if the first does not have it. -/
theorem get?_append (a b : Dict α) (name : String) :
    get? (a ++ b) name = (get? a name).or (get? b name) := by
  induction a with
  | nil => rfl
  | cons e rest ih =>
    obtain ⟨k, x⟩ := e
    by_cases h : k = name <;> simp [get?, h, ih]

/-- The keys are the names under which something is found. -/
theorem mem_keys_iff (d : Dict α) (name : String) : name ∈ keys d ↔ (get? d name).isSome := by
  induction d with
  | nil => simp [keys]
  | cons e rest ih =>
    obtain ⟨k, x⟩ := e
    by_cases h : k = name
    · simp [keys, get?, h]
    · have hne : ¬ name = k := fun hk => h hk.symm
      simpa [keys, get?, h, hne] using ih

/-- A write adds its key, and no other. -/
theorem mem_keys_set (d : Dict α) (key : String) (v : α) (name : String) :
    name ∈ keys (set d key v) ↔ name = key ∨ name ∈ keys d := by
  rw [mem_keys_iff, mem_keys_iff, get?_set]
  by_cases h : name = key <;> simp [h]

/-- After many writes the last one of a key counts. -/
theorem get?_foldl_set (pairs : List (String × α)) (d : Dict α) (name : String) :
    get? (pairs.foldl (fun d p => set d p.1 p.2) d) name =
      (get? pairs.reverse name).or (get? d name) := by
  induction pairs generalizing d with
  | nil => rfl
  | cons p rest ih =>
    obtain ⟨k, x⟩ := p
    rw [List.foldl_cons, ih, List.reverse_cons, get?_append, get?_set, Option.or_assoc]
    by_cases h : name = k
    · simp [get?, h]
    · have hne : ¬ k = name := fun hk => h hk.symm
      simp [get?, h, hne]

/-- Of several pairs with one key the last one counts. -/
theorem get?_ofPairs (pairs : List (String × α)) (name : String) :
    get? (ofPairs pairs) name = get? pairs.reverse name := by
  rw [ofPairs, get?_foldl_set]
  simp

/-! ## The order of the keys -/

theorem ordered_iff_keys (d : Dict α) : Ordered d ↔ (keys d).Pairwise (· < ·) :=
  List.pairwise_map.symm

/-- A write keeps the order: it puts its key where it belongs. -/
theorem ordered_set {d : Dict α} (h : Ordered d) (key : String) (v : α) :
    Ordered (set d key v) := by
  induction d with
  | nil => simp [set, Ordered]
  | cons e rest ih =>
    obtain ⟨k, x⟩ := e
    obtain ⟨hhead, hrest⟩ := List.pairwise_cons.mp h
    unfold set
    split
    · -- the key comes before all others
      rename_i hlt
      refine List.pairwise_cons.mpr ⟨?_, h⟩
      intro p hp
      rcases List.mem_cons.mp hp with rfl | hp
      · exact hlt
      · exact lt_trans hlt (hhead p hp)
    · split
      · -- the key is the first one, and stays it
        rename_i hk
        subst hk
        exact List.pairwise_cons.mpr ⟨hhead, hrest⟩
      · -- the key is larger, and so is every key of what is written further on
        rename_i hnlt hne
        refine List.pairwise_cons.mpr ⟨?_, ih hrest⟩
        intro p hp
        have hkey : p.1 ∈ keys (set rest key v) := List.mem_map_of_mem hp
        rcases (mem_keys_set rest key v p.1).mp hkey with hp | hp
        · rw [hp]
          exact lt_of_le_of_ne (not_lt.mp hnlt) hne
        · obtain ⟨q, hq, hkq⟩ := List.mem_map.mp hp
          rw [← hkq]
          exact hhead q hq

/-- A dictionary that is made of pairs is in order, whatever order they came in. -/
theorem ordered_ofPairs (pairs : List (String × α)) : Ordered (ofPairs pairs) := by
  suffices h : ∀ d : Dict α, Ordered d →
      Ordered (pairs.foldl (fun d p => set d p.1 p.2) d) from h [] List.Pairwise.nil
  induction pairs with
  | nil => exact fun d hd => hd
  | cons p rest ih => exact fun d hd => ih _ (ordered_set hd p.1 p.2)

/-- After a write the entries are the one that was written and ones that were there. -/
theorem mem_set {d : Dict α} {key : String} {v : α} {e : String × α} (h : e ∈ set d key v) :
    e = (key, v) ∨ e ∈ d := by
  induction d with
  | nil => exact Or.inl (List.mem_singleton.mp h)
  | cons first rest ih =>
    obtain ⟨k, x⟩ := first
    unfold set at h
    split at h
    · exact List.mem_cons.mp h
    · split at h
      · exact (List.mem_cons.mp h).imp_right (List.mem_cons_of_mem _)
      · rcases List.mem_cons.mp h with rfl | h
        · exact Or.inr List.mem_cons_self
        · exact (ih h).imp_right (List.mem_cons_of_mem _)

/-- What is found is an entry. -/
theorem mem_of_get?_eq_some {d : Dict α} {k : String} {x : α} (h : get? d k = some x) :
    (k, x) ∈ d := by
  induction d with
  | nil => cases h
  | cons e rest ih =>
    obtain ⟨l, y⟩ := e
    by_cases hk : l = k
    · simp only [get?, hk, if_true, Option.some.injEq] at h
      simp [hk, h]
    · simp only [get?, hk, if_false] at h
      exact List.mem_cons_of_mem _ (ih h)

/-- Where no key comes twice, every entry is found under its key. -/
theorem get?_eq_some_of_mem {d : Dict α} (h : (keys d).Nodup) {k : String} {x : α}
    (hmem : (k, x) ∈ d) : get? d k = some x := by
  induction d with
  | nil => cases hmem
  | cons e rest ih =>
    obtain ⟨l, y⟩ := e
    obtain ⟨hhead, hrest⟩ := List.nodup_cons.mp h
    rcases List.mem_cons.mp hmem with heq | hmem
    · cases heq
      simp [get?]
    · have hkey : k ∈ keys rest := List.mem_map_of_mem hmem
      have hne : ¬ l = k := fun hlk => hhead (hlk ▸ hkey)
      simp [get?, hne, ih hrest hmem]

/-- Where no key comes twice, look-ups do not depend on the arrangement. -/
theorem get?_eq_of_perm {d d' : Dict α} (hperm : d.Perm d') (h : (keys d').Nodup)
    (name : String) : get? d name = get? d' name := by
  have hd : (keys d).Nodup := (hperm.map Prod.fst).nodup_iff.mpr h
  apply Option.ext
  intro x
  constructor
  · intro hx
    exact get?_eq_some_of_mem h (hperm.mem_iff.mp (mem_of_get?_eq_some hx))
  · intro hx
    exact get?_eq_some_of_mem hd (hperm.mem_iff.mpr (mem_of_get?_eq_some hx))

theorem nodup_keys_of_ordered {d : Dict α} (h : Ordered d) : (keys d).Nodup :=
  ((ordered_iff_keys d).mp h).imp ne_of_lt

/-- In the order of its keys, a dictionary is what can be looked up in it. -/
theorem eq_of_get?_eq {d d' : Dict α} (hd : Ordered d) (hd' : Ordered d')
    (h : ∀ name, get? d name = get? d' name) : d = d' := by
  have hkeys := nodup_keys_of_ordered hd
  have hkeys' := nodup_keys_of_ordered hd'
  have hperm : d.Perm d' := by
    apply (List.perm_ext_iff_of_nodup (.of_map _ hkeys) (.of_map _ hkeys')).mpr
    rintro ⟨k, x⟩
    constructor
    · intro hmem
      exact mem_of_get?_eq_some ((h k) ▸ get?_eq_some_of_mem hkeys hmem)
    · intro hmem
      exact mem_of_get?_eq_some ((h k).symm ▸ get?_eq_some_of_mem hkeys' hmem)
  refine List.Perm.eq_of_pairwise ?_ hd hd' hperm
  intro a b _ _ hab hba
  exact absurd hab (lt_asymm hba)

/-- A key that is larger than all others is written at the end. -/
theorem set_concat {d : Dict α} {key : String} (h : ∀ e ∈ d, e.1 < key) (v : α) :
    set d key v = d ++ [(key, v)] := by
  induction d with
  | nil => rfl
  | cons e rest ih =>
    obtain ⟨k, x⟩ := e
    have hk : k < key := h _ List.mem_cons_self
    have hrest := ih fun e he => h e (List.mem_cons_of_mem _ he)
    simp [set, not_lt_of_gt hk, ne_of_lt hk, hrest]

/-- Entries in order are written one after another, each at the end. -/
theorem set_of_ordered {written rest : Dict α} {key : String} {v : α}
    (h : Ordered (written ++ (key, v) :: rest)) : set written key v = written ++ [(key, v)] :=
  set_concat (fun e he => (List.pairwise_append.mp h).2.2 e he _ List.mem_cons_self) v

/-- Pairs in the order of their keys are the dictionary that any arrangement of them makes. -/
theorem ofPairs_eq_of_perm {pairs d : List (String × α)} (hperm : pairs.Perm d)
    (hd : Ordered d) : ofPairs pairs = d := by
  apply eq_of_get?_eq (ordered_ofPairs pairs) hd
  intro name
  -- with different keys it does not matter which of two writes counts
  rw [get?_ofPairs]
  exact get?_eq_of_perm ((List.reverse_perm pairs).trans hperm) (nodup_keys_of_ordered hd) name

/-! ## Members that may be left out -/

/-- A member that is there if there is a value for it. -/
def part (key : String) (v : Option α) : Dict α := (v.map fun x => (key, x)).toList

/-- A member that may be left out is found under its key if it is there. -/
theorem get?_part (key : String) (v : Option α) (name : String) :
    get? (part key v) name = if key = name then v else none := by
  cases v <;> simp [part, get?]

/-- An optional pair is a member that may be left out. -/
theorem toList_map_pair {β : Type} (key : String) (f : β → α) (v : Option β) :
    (v.map fun x => (key, f x)).toList = part key (v.map f) := by
  cases v <;> rfl

/-- A pair that is skipped under a condition is a member that may be left out. -/
theorem ite_pair (absent : Prop) [Decidable absent] (key : String) (x : α) :
    (if absent then [] else [(key, x)]) = part key (if absent then none else some x) := by
  by_cases h : absent <;> simp [part, h]

theorem ite_pair' (given : Prop) [Decidable given] (key : String) (x : α) :
    (if given then [(key, x)] else []) = part key (if given then some x else none) := by
  by_cases h : given <;> simp [part, h]

theorem keys_append (a b : Dict α) : keys (a ++ b) = keys a ++ keys b := List.map_append

/-- The keys of a member that may be left out are at most the one key. -/
theorem keys_part_sublist (key : String) (v : Option α) : (keys (part key v)).Sublist [key] := by
  cases v with
  | none => exact List.nil_sublist _
  | some x => exact List.Sublist.refl _

/-- Entries are in order if their keys are among names in order, and come in that order. -/
theorem ordered_of_keys_sublist {d : Dict α} {names : List String}
    (h : (keys d).Sublist names) (hnames : names.Pairwise (· < ·)) : Ordered d :=
  (ordered_iff_keys d).mpr (hnames.sublist h)

/-- Pairs with different keys can be looked up without regard to their order. -/
theorem get?_ofPairs_of_nodup {pairs : List (String × α)} (h : (keys pairs).Nodup)
    (name : String) : get? (ofPairs pairs) name = get? pairs name := by
  rw [get?_ofPairs]
  exact get?_eq_of_perm (List.reverse_perm pairs) h name

/-- A dictionary of pairs has the keys of the pairs. -/
theorem mem_keys_ofPairs (pairs : List (String × α)) (name : String) :
    name ∈ keys (ofPairs pairs) ↔ name ∈ keys pairs := by
  rw [mem_keys_iff, get?_ofPairs, ← mem_keys_iff]
  simp [keys]

/-! ## Entries that are dropped -/

/-- Where each key is there once, an entry is found among those that are kept if it is one of
them. -/
theorem get?_filterMap {β : Type} {d : Dict α} (h : (keys d).Nodup) (keep : String → α → Option β)
    (name : String) :
    get? (d.filterMap fun e => (keep e.1 e.2).map fun y => (e.1, y)) name =
      (get? d name).bind (keep name) := by
  induction d with
  | nil => rfl
  | cons e rest ih =>
    obtain ⟨k, x⟩ := e
    obtain ⟨hhead, hrest⟩ := List.nodup_cons.mp h
    have hlater := ih hrest
    by_cases hk : k = name
    · subst hk
      cases hkept : keep k x with
      | some y => simp [get?, hkept]
      | none =>
        -- no later entry has the key of the one that is dropped
        have hnone : get? rest k = none := by
          rw [← Option.not_isSome_iff_eq_none, ← mem_keys_iff]
          exact hhead
        simpa [get?, hkept, hnone] using hlater
    · cases hkept : keep k x <;> simpa [get?, hkept, hk] using hlater

/-- The entries whose keys are chosen. -/
def restrict (d : Dict α) (chosen : String → Bool) : Dict α := d.filter fun e => chosen e.1

/-- The chosen keys keep their values, and the others are gone. -/
theorem get?_restrict (d : Dict α) (chosen : String → Bool) (name : String) :
    get? (restrict d chosen) name = if chosen name then get? d name else none := by
  induction d with
  | nil => simp [restrict]
  | cons e rest ih =>
    obtain ⟨k, x⟩ := e
    by_cases hk : k = name
    · subst hk
      cases hchosen : chosen k with
      | true => simp [restrict, get?, hchosen]
      | false => simpa [restrict, hchosen] using ih
    · -- this entry is passed over, kept or not
      cases hchosen : chosen k with
      | true => simpa [restrict, get?, hchosen, hk] using ih
      | false => simpa [restrict, get?, hchosen, hk] using ih

/-- What is left of a dictionary in order is in order. -/
theorem ordered_restrict {d : Dict α} (h : Ordered d) (chosen : String → Bool) :
    Ordered (restrict d chosen) :=
  List.Pairwise.filter _ h

/-- The chosen entries are what can be looked up under the chosen keys. -/
theorem restrict_eq_of_get?_eq {d d' : Dict α} (hd : Ordered d) (hd' : Ordered d')
    {chosen : String → Bool} (h : ∀ name, chosen name = true → get? d name = get? d' name) :
    restrict d chosen = restrict d' chosen := by
  refine eq_of_get?_eq (ordered_restrict hd chosen) (ordered_restrict hd' chosen) fun name => ?_
  rw [get?_restrict, get?_restrict]
  split
  · rename_i hchosen
    exact h name hchosen
  · rfl

/-- Where all that comes of an entry goes by its key, what is kept comes of the chosen entries. -/
theorem filter_flatMap_eq {β : Type} {f : String × α → List β} {keep : β → Bool}
    {chosen : String → Bool} (h : ∀ e, ∀ y ∈ f e, keep y = chosen e.1) (d : Dict α) :
    (List.flatMap f d).filter keep = (restrict d chosen).flatMap f := by
  induction d with
  | nil => rfl
  | cons e rest ih =>
    rw [List.flatMap_cons, List.filter_append, ih]
    cases hchosen : chosen e.1 with
    | true =>
      have hall : (f e).filter keep = f e :=
        List.filter_eq_self.mpr fun y hy => (h e y hy).trans hchosen
      simp [restrict, hchosen, hall]
    | false =>
      have hnone : (f e).filter keep = [] :=
        List.filter_eq_nil_iff.mpr fun y hy => by simp [h e y hy, hchosen]
      simp [restrict, hchosen, hnone]

/-! ## Mapped values -/

section Mapped

variable {β : Type}

@[simp] theorem mapValues_cons (f : α → β) (k : String) (x : α) (d : Dict α) :
    mapValues f ((k, x) :: d) = (k, f x) :: mapValues f d := rfl

theorem mapValues_append (f : α → β) (a b : Dict α) :
    mapValues f (a ++ b) = mapValues f a ++ mapValues f b := List.map_append

/-- Mapping does not change whether a member is left out. -/
theorem mapValues_part (f : α → β) (key : String) (v : Option α) :
    mapValues f (part key v) = part key (v.map f) := by
  cases v <;> rfl

theorem keys_mapValues (f : α → β) (d : Dict α) : keys (mapValues f d) = keys d := by
  simp [keys, mapValues]

/-- The dictionary with a function of its key applied to each value. -/
def mapEntries (f : String → α → β) (d : Dict α) : Dict β := List.map (fun e => (e.1, f e.1 e.2)) d

@[simp] theorem mapEntries_nil (f : String → α → β) : mapEntries f [] = [] := rfl

@[simp] theorem mapEntries_cons (f : String → α → β) (k : String) (x : α) (d : Dict α) :
    mapEntries f ((k, x) :: d) = (k, f k x) :: mapEntries f d := rfl

theorem mapEntries_append (f : String → α → β) (a b : Dict α) :
    mapEntries f (a ++ b) = mapEntries f a ++ mapEntries f b := List.map_append

/-- Mapping with the key does not change whether a member is left out. -/
theorem mapEntries_part (f : String → α → β) (key : String) (v : Option α) :
    mapEntries f (part key v) = part key (v.map (f key)) := by
  cases v <;> rfl

theorem keys_mapEntries (f : String → α → β) (d : Dict α) : keys (mapEntries f d) = keys d := by
  simp [keys, mapEntries]

/-- Two maps, one after the other, are one map. -/
theorem mapEntries_mapEntries {γ : Type} (g : String → β → γ) (f : String → α → β) (d : Dict α) :
    mapEntries g (mapEntries f d) = mapEntries (fun k x => g k (f k x)) d := by
  simp [mapEntries]

/-- What is found after mapping is what was found before, mapped with its key. -/
theorem get?_mapEntries (f : String → α → β) (d : Dict α) (name : String) :
    get? (mapEntries f d) name = (get? d name).map (f name) := by
  induction d with
  | nil => rfl
  | cons e rest ih =>
    obtain ⟨k, x⟩ := e
    by_cases h : k = name <;> simp [get?, h, ih]

/-- Writing and mapping can be done in either order. -/
theorem set_mapEntries (f : String → α → β) (d : Dict α) (key : String) (v : α) :
    set (mapEntries f d) key (f key v) = mapEntries f (set d key v) := by
  induction d with
  | nil => rfl
  | cons e rest ih =>
    obtain ⟨k, x⟩ := e
    by_cases hlt : key < k
    · simp [set, hlt]
    · by_cases hk : k = key <;> simp [set, hlt, hk, ih]

/-- Mapping commutes with making a dictionary of pairs. -/
theorem ofPairs_mapEntries (f : String → α → β) (pairs : List (String × α)) :
    ofPairs (mapEntries f pairs) = mapEntries f (ofPairs pairs) := by
  suffices h : ∀ d : Dict α,
      (mapEntries f pairs).foldl (fun d p => set d p.1 p.2) (mapEntries f d) =
        mapEntries f (pairs.foldl (fun d p => set d p.1 p.2) d) from h []
  induction pairs with
  | nil => exact fun _ => rfl
  | cons p rest ih =>
    intro d
    rw [mapEntries_cons, List.foldl_cons, List.foldl_cons, set_mapEntries, ih]

end Mapped

end ClusterMonitor.Dict

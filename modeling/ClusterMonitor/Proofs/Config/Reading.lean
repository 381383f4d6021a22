import ClusterMonitor.Config.Document

/-!
# What a read document is made of

A document is refused for its outer shape only. When it is read, each part of the configuration
comes from one member of the document, and the entries of `instances` are read one by one.

* `Configuration.read_eq_ok_iff` — exactly which documents are read, and what from.
* `Configuration.readInstances_outcomes` — the outcome at each place.
* `Configuration.instance?_read` — looking an outcome up by its index.
* `Configuration.entry_of_mem_validInstances` — the entry of a valid instance.
* `Configuration.readLog_eq_ok_iff` — the entries of `logs` that are kept.
-/

namespace ClusterMonitor.Configuration

/-- The entry of `instances` at a place of a document, if it is there. -/
def entryAt? (document : Value) (index : Nat) : Option Value :=
  ((document.get? "instances").bind Value.asArray?).bind fun entries => entries[index]?

/-- The configuration that the members of a document and the entries of its `instances` make. -/
def ofMembers (s : Schema) (members : Dict Value) (entries : List Value) : Configuration :=
  { init := (InitSection.read s (Dict.get? members "init_config")).1
    instances := (readInstances s 0 entries).1
    logs := (readLogs (Dict.get? members "logs")).1
    diagnostics := (InitSection.read s (Dict.get? members "init_config")).2 ++
      (readInstances s 0 entries).2 ++ (readLogs (Dict.get? members "logs")).2 ++
      unknownMembers members }

/-- A document has entries if it is an object whose `instances` is a list with something in it. -/
theorem entriesOf_eq_ok_iff (document : Value) (members : Dict Value) (entries : List Value) :
    entriesOf document = .ok (members, entries) ↔
      document = .object members ∧ Dict.get? members "instances" = some (.array entries) ∧
        entries ≠ [] := by
  unfold entriesOf
  constructor
  · intro h
    split at h
    · split at h
      · cases h
      · rename_i hne hget
        cases h
        exact ⟨rfl, hget, hne⟩
      · cases h
      · cases h
    · cases h
  · rintro ⟨rfl, hget, hne⟩
    cases entries with
    | nil => exact absurd rfl hne
    | cons e rest => simp [hget]

/-- Such documents are read, and no others. -/
theorem read_eq_ok_iff (s : Schema) (document : Value) (c : Configuration) :
    read s document = .ok c ↔
      ∃ members entries, document = .object members ∧
        Dict.get? members "instances" = some (.array entries) ∧ entries ≠ [] ∧
        c = ofMembers s members entries := by
  unfold read
  constructor
  · intro h
    split at h
    · cases h
    · rename_i members entries hentries
      cases h
      obtain ⟨hdoc, hget, hne⟩ := (entriesOf_eq_ok_iff _ _ _).mp hentries
      exact ⟨members, entries, hdoc, hget, hne, rfl⟩
  · rintro ⟨members, entries, hdoc, hget, hne, rfl⟩
    rw [(entriesOf_eq_ok_iff _ _ _).mpr ⟨hdoc, hget, hne⟩]
    rfl

/-- The entry at an index is the item of `instances` at this index. -/
theorem entryAt?_object {members : Dict Value} {entries : List Value}
    (h : Dict.get? members "instances" = some (.array entries)) (index : Nat) :
    entryAt? (.object members) index = entries[index]? := by
  simp [entryAt?, Value.get?, h, Value.asArray?]

/-! ## The entries of `instances` -/

theorem readInstance_index (s : Schema) (index : Nat) (entry : Value) :
    (readInstance s index entry).1.index = index := by
  unfold readInstance
  split <;> rfl

/-- Entries keep their places: the outcome at a place is that of the entry there. -/
theorem readInstances_outcomes (s : Schema) (start : Nat) (entries : List Value) (place : Nat) :
    (readInstances s start entries).1[place]? =
      entries[place]?.map fun entry => (readInstance s (start + place) entry).1 := by
  induction entries generalizing start place with
  | nil => rfl
  | cons entry rest ih =>
    cases place with
    | zero => rfl
    | succ place =>
      have hnext : start + 1 + place = start + (place + 1) := by omega
      simpa [readInstances, hnext] using ih (start + 1) place

/-- The outcome of an entry is what reading it gives, under its index. -/
theorem readInstance_fst (s : Schema) (index : Nat) (entry : Value) :
    (readInstance s index entry).1 = ⟨index, (Instance.read s index entry).1⟩ := by
  unfold readInstance
  split <;> simp_all

/-- The outcomes are those of the entries, each under its index. -/
theorem readInstances_fst (s : Schema) (entries : List Value) :
    (readInstances s 0 entries).1 =
      entries.mapIdx fun index entry => ⟨index, (Instance.read s index entry).1⟩ := by
  refine List.ext_getElem? fun index => ?_
  simp [readInstances_outcomes, readInstance_fst, List.getElem?_mapIdx]

/-- An outcome is that of the entry at its index. -/
theorem entry_of_mem_mapIdx {s : Schema} {entries : List Value} {o : InstanceOutcome}
    (ho : o ∈ entries.mapIdx fun index entry => (⟨index, (Instance.read s index entry).1⟩ :
      InstanceOutcome)) :
    ∃ entry, entries[o.index]? = some entry ∧ o.result = (Instance.read s o.index entry).1 := by
  obtain ⟨index, hindex, rfl⟩ := List.mem_mapIdx.mp ho
  exact ⟨entries[index], List.getElem?_eq_getElem hindex, rfl⟩

/-- The valid instances are the outcomes without an error. -/
theorem mem_validInstances {c : Configuration} {index : Nat} {i : Instance} :
    (index, i) ∈ c.validInstances ↔ ⟨index, .ok i⟩ ∈ c.instances := by
  rw [validInstances, List.mem_filterMap]
  constructor
  · rintro ⟨⟨place, result⟩, ho, hvalid⟩
    cases result with
    | ok j =>
      cases hvalid
      exact ho
    | error e => cases hvalid
  · exact fun ho => ⟨_, ho, rfl⟩

/-- The failed instances are the outcomes with one. -/
theorem mem_failedInstances {c : Configuration} {index : Nat} {e : ConfigError} :
    (index, e) ∈ c.failedInstances ↔ ⟨index, .error e⟩ ∈ c.instances := by
  rw [failedInstances, List.mem_filterMap]
  constructor
  · rintro ⟨⟨place, result⟩, ho, hfailed⟩
    cases result with
    | ok j => cases hfailed
    | error e' =>
      cases hfailed
      exact ho
  · exact fun ho => ⟨_, ho, rfl⟩

/-- Each valid instance is read from the entry at its index. -/
theorem entry_of_mem_validInstances {s : Schema} {document : Value} {c : Configuration}
    (h : read s document = .ok c) {index : Nat} {i : Instance}
    (hi : (index, i) ∈ c.validInstances) :
    ∃ entry, entryAt? document index = some entry ∧ (Instance.read s index entry).1 = .ok i := by
  obtain ⟨members, entries, rfl, hentries, -, rfl⟩ := (read_eq_ok_iff _ _ _).mp h
  have hmem := mem_validInstances.mp hi
  rw [ofMembers, readInstances_fst] at hmem
  obtain ⟨entry, hentry, hresult⟩ := entry_of_mem_mapIdx hmem
  exact ⟨entry, (entryAt?_object hentries index).trans hentry, hresult.symm⟩

/-- The outcome with an index is that of the entry at this index. -/
theorem find?_index_readInstances (s : Schema) (start : Nat) (entries : List Value)
    (place : Nat) :
    (readInstances s start entries).1.find? (fun o => o.index == start + place) =
      entries[place]?.map fun entry => (readInstance s (start + place) entry).1 := by
  induction entries generalizing start place with
  | nil => rfl
  | cons entry rest ih =>
    cases place with
    | zero => simp [readInstances, readInstance_index]
    | succ place =>
      have hne : ¬ start = start + (place + 1) := by omega
      have hnext : start + 1 + place = start + (place + 1) := by omega
      have hrest := ih (start + 1) place
      rw [hnext] at hrest
      simpa [readInstances, readInstance_index, List.find?_cons, hne] using hrest

/-- The outcome of an index is that of the entry at this place. -/
theorem instance?_read {s : Schema} {document : Value} {c : Configuration}
    (h : read s document = .ok c) (index : Nat) :
    c.instance? index =
      (entryAt? document index).map fun entry => (readInstance s index entry).1 := by
  obtain ⟨members, entries, rfl, hget, -, rfl⟩ := (read_eq_ok_iff _ _ _).mp h
  rw [entryAt?_object hget]
  simpa [instance?, ofMembers] using find?_index_readInstances s 0 entries index

/-! ## The entries of `logs` -/

/-- An entry is read as a log source if it is decoded as one and the source is valid. -/
theorem readLog_eq_ok_iff (entry : Value) (s : LogSource) :
    readLog entry = .ok s ↔
      LogSource.decode (Node.ofValue entry) = .ok s ∧ s.validate = .ok () := by
  cases hdecode : LogSource.decode (Node.ofValue entry) with
  | error e => simp [readLog, hdecode]
  | ok t =>
    cases hvalid : t.validate with
    | error e =>
      simp only [readLog, hdecode, hvalid]
      constructor
      · intro h
        cases h
      · rintro ⟨h, ht⟩
        cases h
        rw [hvalid] at ht
        cases ht
    | ok u =>
      simp only [readLog, hdecode, hvalid]
      constructor
      · intro h
        cases h
        exact ⟨rfl, hvalid⟩
      · rintro ⟨h, -⟩
        cases h
        rfl

end ClusterMonitor.Configuration

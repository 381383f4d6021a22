import ClusterMonitor.Proofs.Config.Isolation
import ClusterMonitor.Proofs.Config.Layers
import ClusterMonitor.Proofs.Decode.Record

/-!
# What the environment reaches

What the variables of the environment say is laid over a document as one member, the shared section.
A document is read outside of that section as if no variable were set.

* `Dict.erase` — the entries beside one key; a write at the key leaves them as they are.
* `Environment.erase_document` — a document with overrides, beside the shared section.
* `Configuration.SameBesideInit` — configurations that differ in the shared section at most.
* `Configuration.read_of_erase_eq` — what is read of documents that differ there at most.
* `Engine.build_overridden` — a file with the environment over it, and the file alone.
-/

namespace ClusterMonitor

/-! ## The entries beside one key -/

namespace Dict

variable {α : Type}

/-- The entries with other keys. -/
def erase (d : Dict α) (key : String) : Dict α := restrict d fun k => k ≠ key

/-- Other keys keep their values when one is erased. -/
theorem get?_erase_of_ne {key name : String} (h : name ≠ key) (d : Dict α) :
    get? (erase d key) name = get? d name := by
  rw [erase, get?_restrict, if_pos (by simpa using h)]

/-- A write at a key leaves the other entries as they are, in their order. -/
theorem erase_set (d : Dict α) (key : String) (v : α) : erase (set d key v) key = erase d key := by
  induction d with
  | nil => simp [set, erase, restrict]
  | cons e rest ih =>
    obtain ⟨k, x⟩ := e
    unfold set
    split
    · simp [erase, restrict]
    · split
      · rename_i hk
        simp [erase, restrict, hk]
      · rename_i hk
        simpa [erase, restrict, hk] using ih

/-- A choice of keys without this one looks at the other entries only. -/
theorem filter_keys_erase {key : String} {p : String → Bool} (h : p key = false) (d : Dict α) :
    (keys (erase d key)).filter p = (keys d).filter p := by
  induction d with
  | nil => rfl
  | cons e rest ih =>
    obtain ⟨k, x⟩ := e
    by_cases hk : k = key
    · simpa [erase, restrict, keys, hk, h] using ih
    · cases hp : p k <;> simpa [erase, restrict, keys, hk, hp] using ih

end Dict

/-! ## Documents with overrides -/

namespace Value

/-- An empty layer changes nothing. -/
theorem overlay_object_nil (members : Dict Value) :
    (Value.object members).overlay (.object []) = .object members := by
  simp [overlay, overlayMembers]

/-- A layer with one member writes this member, laid over what was there. -/
theorem overlay_object_singleton (members : Dict Value) (key : String) (v : Value) :
    (Value.object members).overlay (.object [(key, v)]) =
      .object (Dict.set members key (overlayOn (Dict.get? members key) v)) := by
  simp only [overlay]
  rw [overlayMembers_cons, overlayMembers]

/-- An object laid over anything makes an object. -/
theorem exists_overlay_eq_object (base : Value) {layer : Value} (h : layer.IsObject) :
    ∃ members, base.overlay layer = .object members := by
  cases layer with
  | object above => cases base <;> exact ⟨_, rfl⟩
  | _ => cases h

end Value

namespace Environment

/-- The overrides are no member at all, or one. -/
theorem document_cases (opening : String) (e : Environment) :
    document opening e = .object [] ∨
      ∃ v, document opening e = .object [(overriddenSection, v)] := by
  unfold document
  split
  · exact Or.inl rfl
  · exact Or.inr ⟨_, rfl⟩

/-- The overrides leave the members beside the shared section as they are. -/
theorem erase_document (opening : String) (e : Environment) (members : Dict Value) :
    ∃ members', (Value.object members).overlay (document opening e) = .object members' ∧
      Dict.erase members' overriddenSection = Dict.erase members overriddenSection := by
  rcases document_cases opening e with h | ⟨v, h⟩
  · exact ⟨members, by rw [h, Value.overlay_object_nil], rfl⟩
  · rw [h, Value.overlay_object_singleton]
    exact ⟨_, rfl, Dict.erase_set _ _ _⟩

end Environment

namespace Source

/-- A JSON file is read as an object, or not at all. -/
theorem isObject_of_readJson? {text : String} {layer : Value} (h : readJson? text = some layer) :
    layer.IsObject := by
  unfold readJson? at h
  split at h
  · cases h
    trivial
  · cases h

theorem isObject_of_readYaml? {text : String} {layer : Value} (h : readYaml? text = some layer) :
    layer.IsObject := by
  unfold readYaml? at h
  split at h
  · -- a mapping stays one, with its tags as members or without tags
    rw [Node.tagsAsMembers, Node.value?] at h
    obtain ⟨members, -, rfl⟩ := Option.map_eq_some_iff.mp h
    trivial
  · cases h
    trivial
  · cases h

/-- A file contributes a mapping, or it cannot be read. -/
theorem isObject_of_readFile {s : Surroundings} {path : String} {layer : Value}
    (h : readFile s path = .ok layer) : layer.IsObject := by
  unfold readFile at h
  split at h
  · cases h
  · rename_i bytes _
    cases hlayer : (Text.decode? bytes).bind fun text =>
        if isJson path then readJson? text else readYaml? text with
    | none =>
      simp only [hlayer] at h
      cases h
    | some v =>
      simp only [hlayer] at h
      cases h
      obtain ⟨text, -, hread⟩ := Option.bind_eq_some_iff.mp hlayer
      split at hread
      · exact isObject_of_readJson? hread
      · exact isObject_of_readYaml? hread

end Source

/-! ## What is read beside the shared section -/

namespace Configuration

/-- The configurations differ at most in the shared section and in the reports on it. -/
structure SameBesideInit (c c' : Configuration) : Prop where
  instances : c.instances = c'.instances
  logs : c.logs = c'.logs
  reports : (c.diagnostics.filter fun d => d.scope.part ≠ .initConfig) =
    c'.diagnostics.filter fun d => d.scope.part ≠ .initConfig

/-- Reading the shared section reports on nothing beside it. -/
theorem filter_beside_readInit (s : Schema) (section? : Option Value) :
    ((InitSection.read s section?).2.filter fun d => d.scope.part ≠ .initConfig) = [] := by
  rw [List.filter_eq_nil_iff]
  intro d hd
  simp [InitSection.read_allOf s section? d hd]

/-- Whether members are unknown does not depend on the shared section. -/
theorem unknownMembers_erase (members : Dict Value) :
    unknownMembers (Dict.erase members "init_config") = unknownMembers members := by
  have hknown : (!knownKeys.contains "init_config") = false := by decide
  rw [unknownMembers, Dict.filter_keys_erase hknown, unknownMembers]

/-- Documents with the same members beside the shared section are read in the same way beside it. -/
theorem sameBesideInit_ofMembers {members members' : Dict Value}
    (h : Dict.erase members "init_config" = Dict.erase members' "init_config") (s : Schema)
    (entries : List Value) :
    SameBesideInit (ofMembers s members entries) (ofMembers s members' entries) := by
  have hlogs : Dict.get? members "logs" = Dict.get? members' "logs" := by
    have hne : "logs" ≠ "init_config" := by decide
    rw [← Dict.get?_erase_of_ne hne members, h, Dict.get?_erase_of_ne hne]
  have hunknown : unknownMembers members = unknownMembers members' := by
    rw [← unknownMembers_erase members, h, unknownMembers_erase]
  refine ⟨rfl, ?_, ?_⟩
  · simp only [ofMembers, hlogs]
  · simp only [ofMembers, hlogs, hunknown, List.filter_append, filter_beside_readInit]

/-- Whether there are entries, and which, depends on `instances` only. -/
theorem entriesOf_congr {members members' : Dict Value}
    (h : Dict.get? members "instances" = Dict.get? members' "instances") :
    (entriesOf (.object members)).map Prod.snd = (entriesOf (.object members')).map Prod.snd := by
  unfold entriesOf
  simp only [h]
  split <;> rfl

/-- Documents that agree beside the shared section are refused alike, or read alike beside it. -/
theorem read_of_erase_eq {members members' : Dict Value}
    (h : Dict.erase members "init_config" = Dict.erase members' "init_config") (s : Schema) :
    (∃ fault, read s (.object members) = .error fault ∧ read s (.object members') = .error fault) ∨
      ∃ c c', read s (.object members) = .ok c ∧ read s (.object members') = .ok c' ∧
        SameBesideInit c c' := by
  have hinstances : Dict.get? members "instances" = Dict.get? members' "instances" := by
    have hne : "instances" ≠ "init_config" := by decide
    rw [← Dict.get?_erase_of_ne hne members, h, Dict.get?_erase_of_ne hne]
  rcases Decode.results_of_map_eq (entriesOf_congr hinstances) with
    ⟨fault, hfault, hfault'⟩ | ⟨⟨_, entries⟩, ⟨_, entries'⟩, hentries, hentries', heq⟩
  · exact Or.inl ⟨fault.error, by simp only [read, hfault], by simp only [read, hfault']⟩
  · obtain ⟨⟨⟩, hget, hsome⟩ := (entriesOf_eq_ok_iff _ _ _).mp hentries
    obtain ⟨⟨⟩, hget', -⟩ := (entriesOf_eq_ok_iff _ _ _).mp hentries'
    cases heq
    exact Or.inr ⟨_, _, (read_eq_ok_iff _ _ _).mpr ⟨_, _, rfl, hget, hsome, rfl⟩,
      (read_eq_ok_iff _ _ _).mpr ⟨_, _, rfl, hget', hsome, rfl⟩,
      sameBesideInit_ofMembers h s entries⟩

end Configuration

/-! ## A file with the environment over it -/

namespace Engine

/-- Default log sources do not depend on the shared section. -/
theorem sameBesideInit_withDefaultLogs (e : Engine) {c c' : Configuration}
    (h : Configuration.SameBesideInit c c') :
    Configuration.SameBesideInit (e.withDefaultLogs c) (e.withDefaultLogs c') := by
  unfold withDefaultLogs
  rw [← h.logs]
  split
  · exact ⟨h.instances, rfl, h.reports⟩
  · exact h

/-- The merged document of a file with the environment over it: that of the file alone, with other
overrides at most in the shared section. -/
theorem document_overridden (e : Engine) (path opening : String) (s : Surroundings) :
    (∃ fault, { e with sources := [.file path] }.document s = .error fault ∧
        { e with sources := [.file path, .environment opening] }.document s = .error fault) ∨
      ∃ members members', { e with sources := [.file path] }.document s = .ok (.object members) ∧
        { e with sources := [.file path, .environment opening] }.document s =
          .ok (.object members') ∧
        Dict.erase members "init_config" = Dict.erase members' "init_config" := by
  cases hread : Source.readFile s path with
  | error fault => exact Or.inl ⟨fault, by simp [document, overlaySources, Source.read, hread]⟩
  | ok layer =>
    obtain ⟨members, hfile⟩ :=
      Value.exists_overlay_eq_object (.object []) (Source.isObject_of_readFile hread)
    obtain ⟨members', hboth, herase⟩ :=
      Environment.erase_document opening s.environment members
    refine Or.inr ⟨members, members', ?_, ?_, herase.symm⟩
    · simp [document, overlaySources, Source.read, hread, hfile]
    · simp [document, overlaySources, Source.read, hread, hfile, hboth]

/-- The environment reaches the shared section only. With it over a file, a configuration is built
if one is built from the file alone, and it has the same instances, the same log sources and, beside
those on the shared section, the same reports. -/
theorem build_overridden (e : Engine) (path opening : String) (s : Surroundings) :
    let alone : Engine := { e with sources := [.file path] }
    let overridden : Engine := { e with sources := [.file path, .environment opening] }
    ((∃ c', overridden.build s = .ok c') ↔ ∃ c, alone.build s = .ok c) ∧
      (∀ fault, overridden.build s = .error fault ↔ alone.build s = .error fault) ∧
      ∀ c c', alone.build s = .ok c → overridden.build s = .ok c' →
        c'.instances = c.instances ∧ c'.logs = c.logs ∧
          (c'.diagnostics.filter fun d => d.scope.part ≠ .initConfig) =
            c.diagnostics.filter fun d => d.scope.part ≠ .initConfig := by
  intro alone overridden
  suffices h : (∃ fault, alone.build s = .error fault ∧ overridden.build s = .error fault) ∨
      ∃ c c', alone.build s = .ok c ∧ overridden.build s = .ok c' ∧
        Configuration.SameBesideInit c c' by
    rcases h with ⟨fault, halone, hboth⟩ | ⟨c, c', halone, hboth, hsame⟩
    · simp [halone, hboth]
    · refine ⟨by simp [halone, hboth], by simp [halone, hboth], ?_⟩
      rw [halone, hboth]
      rintro _ _ ⟨⟩ ⟨⟩
      exact ⟨hsame.instances.symm, hsame.logs.symm, hsame.reports.symm⟩
  -- the file is refused, or its document is, or both documents are read
  rcases document_overridden e path opening s with
    ⟨fault, halone, hboth⟩ | ⟨members, members', halone, hboth, herase⟩
  · exact Or.inl ⟨fault, by simp only [alone, build, halone], by simp only [overridden, build, hboth]⟩
  · rcases Configuration.read_of_erase_eq herase e.schema with
      ⟨fault, hread, hread'⟩ | ⟨c, c', hread, hread', hsame⟩
    · refine Or.inl ⟨fault, ?_, ?_⟩
      · simp only [alone, build, halone, hread, Except.map]
      · simp only [overridden, build, hboth, hread', Except.map]
    · refine Or.inr ⟨_, _, ?_, ?_, sameBesideInit_withDefaultLogs e hsame⟩
      · simp only [alone, build, halone, hread, Except.map]
        rfl
      · simp only [overridden, build, hboth, hread', Except.map]
        rfl

end Engine

end ClusterMonitor

import ClusterMonitor.Proofs.Config.Parts
import ClusterMonitor.Proofs.Config.Reading
import ClusterMonitor.Proofs.Log.RoundTrip

/-!
# Configurations through documents

What was read from a document under the built-in schema is read again from its own document form:
the same shared section, the valid instances and the log sources, and no report on any of them.

* `Configuration.readInstances_toValue`, `Configuration.readLogs_toValue` — the lists read back.
* `Configuration.read_toValue_of_read` — the whole document.
-/

namespace ClusterMonitor.Configuration

open Schema (builtin)

/-! ## Instances -/

/-- The outcomes of instances that are all valid, counted from `start`. -/
def validOutcomes (start : Nat) (instances : List Instance) : List InstanceOutcome :=
  (instances.zipIdx start).map fun p => ⟨p.2, .ok p.1⟩

theorem validOutcomes_cons (start : Nat) (i : Instance) (rest : List Instance) :
    validOutcomes start (i :: rest) = ⟨start, .ok i⟩ :: validOutcomes (start + 1) rest := rfl

/-- The valid instances among outcomes that are all valid are all of them. -/
theorem map_snd_valid?_validOutcomes (start : Nat) (instances : List Instance) :
    ((validOutcomes start instances).filterMap valid?).map Prod.snd = instances := by
  induction instances generalizing start with
  | nil => rfl
  | cons i rest ih => simp [validOutcomes_cons, valid?, ih (start + 1)]

/-- Every instance that was read is sound. -/
theorem sound_of_mem_readInstances {start : Nat} {entries : List Value} {o : InstanceOutcome}
    (ho : o ∈ (readInstances builtin start entries).1) {i : Instance} (hi : o.result = .ok i) :
    i.Sound := by
  obtain ⟨place, hplace⟩ := List.mem_iff_getElem?.mp ho
  rw [readInstances_outcomes] at hplace
  obtain ⟨entry, -, rfl⟩ := Option.map_eq_some_iff.mp hplace
  rcases hread : Instance.read builtin (start + place) entry with ⟨e | j, reports⟩
  · simp only [readInstance, hread] at hi
    cases hi
  · simp only [readInstance, hread] at hi
    cases hi
    exact Instance.sound_of_read (congrArg Prod.fst hread)

/-- Sound instances with URLs that are read back are read back themselves, without a report. -/
theorem readInstances_toValue {instances : List Instance}
    (hsound : ∀ i ∈ instances, i.Sound) (hurl : ∀ i ∈ instances, i.url.ReadsBack)
    (start : Nat) :
    readInstances builtin start (instances.map Instance.toValue) =
      (validOutcomes start instances, []) := by
  induction instances generalizing start with
  | nil => rfl
  | cons i rest ih =>
    have hhead := Instance.read_toValue (hsound i List.mem_cons_self) (hurl i List.mem_cons_self)
      start
    have hrest := ih (fun j hj => hsound j (List.mem_cons_of_mem _ hj))
      (fun j hj => hurl j (List.mem_cons_of_mem _ hj)) (start + 1)
    simp [readInstances, readInstance, hhead, hrest, validOutcomes_cons]

/-! ## Log sources -/

/-- Every log source that was read comes from an entry. -/
theorem readLog_of_mem_readLogEntries {start : Nat} {entries : List Value} {s : LogSource}
    (h : s ∈ (readLogEntries start entries).1) : ∃ entry, readLog entry = .ok s := by
  induction entries generalizing start with
  | nil => cases h
  | cons entry rest ih =>
    cases hread : readLog entry with
    | error reason =>
      -- a dropped entry leaves no source
      simp only [readLogEntries, hread] at h
      exact ih h
    | ok t =>
      simp only [readLogEntries, hread] at h
      rcases List.mem_cons.mp h with rfl | h
      · exact ⟨entry, hread⟩
      · exact ih h

/-- A source that was read is read again from its document form. -/
theorem readLog_toValue {entry : Value} {s : LogSource} (h : readLog entry = .ok s) :
    readLog s.toValue = .ok s := by
  obtain ⟨hdecode, hvalid⟩ := (readLog_eq_ok_iff entry s).mp h
  have hsound := LogSource.sound_of_decode hdecode
  exact (readLog_eq_ok_iff s.toValue s).mpr ⟨LogSource.decode_toValue hsound, hvalid⟩

/-- Log sources that are read back one by one are read back as a list, without a report. -/
theorem readLogEntries_toValue {sources : List LogSource}
    (h : ∀ s ∈ sources, readLog s.toValue = .ok s) (start : Nat) :
    readLogEntries start (sources.map LogSource.toValue) = (sources, []) := by
  induction sources generalizing start with
  | nil => rfl
  | cons s rest ih =>
    have hrest := ih (fun t ht => h t (List.mem_cons_of_mem _ ht)) (start + 1)
    simp [readLogEntries, h s List.mem_cons_self, hrest]

/-- Without sources there is no member, and from no member no source is read. -/
theorem readLogs_toValue {sources : List LogSource}
    (h : ∀ s ∈ sources, readLog s.toValue = .ok s) :
    readLogs (if sources.isEmpty then none else some (.array (sources.map LogSource.toValue))) =
      (sources, []) := by
  cases sources with
  | nil => rfl
  | cons s rest => exact readLogEntries_toValue h 0

/-- Every log source that was read is read back from its document form. -/
theorem readLog_of_mem_readLogs {logs? : Option Value} {s : LogSource}
    (h : s ∈ (readLogs logs?).1) : readLog s.toValue = .ok s := by
  unfold readLogs at h
  split at h
  · cases h
  · cases h
  · obtain ⟨entry, hread⟩ := readLog_of_mem_readLogEntries h
    exact readLog_toValue hread
  · cases h

/-! ## Documents -/

/-- The members of the document form. -/
def members (c : Configuration) : Dict Value :=
  [("init_config", c.init.toValue),
    ("instances", .array (c.validInstances.map fun p => p.2.toValue))] ++
    Dict.part "logs" (if c.logs.isEmpty then none else some (.array (c.logs.map LogSource.toValue)))

theorem toValue_eq (c : Configuration) : c.toValue = .ofPairs c.members := by
  simp only [toValue, members, Dict.ite_pair]

/-- No member comes twice, and all are known. -/
theorem keys_members (c : Configuration) : (Dict.keys c.members).Sublist knownKeys := by
  rw [members, Dict.keys_append]
  exact (List.Sublist.refl _).append (Dict.keys_part_sublist _ _)

/-- The members can be looked up without regard to their order. -/
theorem get?_ofPairs_members (c : Configuration) (name : String) :
    Dict.get? (Dict.ofPairs c.members) name = Dict.get? c.members name :=
  Dict.get?_ofPairs_of_nodup (c.keys_members.nodup (by decide)) name

/-- The document form has no unknown member. -/
theorem unknownMembers_members (c : Configuration) :
    unknownMembers (Dict.ofPairs c.members) = [] := by
  rw [unknownMembers, List.map_eq_nil_iff, List.filter_eq_nil_iff]
  intro name hname
  have hknown := c.keys_members.subset ((Dict.mem_keys_ofPairs c.members name).mp hname)
  simpa using hknown

/-- What is read from the document form, if its parts are. -/
theorem read_toValue_of_parts {c : Configuration} (hinit : c.init.Sound)
    (hinstances : ∀ p ∈ c.validInstances, p.2.Sound)
    (hlogs : ∀ s ∈ c.logs, readLog s.toValue = .ok s) (hvalid : c.validInstances ≠ [])
    (hurl : ∀ p ∈ c.validInstances, p.2.url.ReadsBack) :
    read builtin c.toValue = .ok
      { init := c.init, instances := validOutcomes 0 (c.validInstances.map Prod.snd)
        logs := c.logs, diagnostics := [] } := by
  have hread := readInstances_toValue (List.forall_mem_map.mpr hinstances)
    (List.forall_mem_map.mpr hurl) 0
  rw [List.map_map] at hread
  have hinitMember : Dict.get? (Dict.ofPairs c.members) "init_config" = some c.init.toValue := by
    rw [get?_ofPairs_members]
    rfl
  have hinstancesMember : Dict.get? (Dict.ofPairs c.members) "instances" =
      some (.array (c.validInstances.map (Instance.toValue ∘ Prod.snd))) := by
    rw [get?_ofPairs_members]
    rfl
  have hlogsMember : Dict.get? (Dict.ofPairs c.members) "logs" =
      if c.logs.isEmpty then none else some (.array (c.logs.map LogSource.toValue)) := by
    rw [get?_ofPairs_members]
    simp [members, Dict.get?, Dict.get?_part]
  refine (read_eq_ok_iff _ _ _).mpr
    ⟨_, _, toValue_eq c, hinstancesMember, by simpa using hvalid, ?_⟩
  simp only [ofMembers, hinitMember, hlogsMember, InitSection.read_toValue hinit, hread,
    readLogs_toValue hlogs, unknownMembers_members, List.append_nil]

/-- A document that was read with at least one valid instance is read again from its own document
form, without any report. -/
theorem read_toValue_of_read (d : Value) (c : Configuration) (h : read builtin d = .ok c)
    (hvalid : c.validInstances ≠ []) (hurl : ∀ p ∈ c.validInstances, p.2.url.ReadsBack) :
    ∃ c', read builtin c.toValue = .ok c' ∧ c'.diagnostics = [] ∧ c'.init = c.init ∧
      c'.logs = c.logs ∧ c'.instances = validOutcomes 0 (c.validInstances.map Prod.snd) ∧
      c'.toValue = c.toValue := by
  have hinit : c.init.Sound := by
    obtain ⟨members, entries, -, -, -, rfl⟩ := (read_eq_ok_iff _ _ _).mp h
    exact InitSection.sound_read _
  have hinstances : ∀ p ∈ c.validInstances, p.2.Sound := by
    obtain ⟨members, entries, -, -, -, rfl⟩ := (read_eq_ok_iff _ _ _).mp h
    intro p hp
    obtain ⟨o, ho, hp⟩ := List.mem_filterMap.mp hp
    refine sound_of_mem_readInstances ho ?_
    unfold valid? at hp
    split at hp
    · rename_i hresult
      cases hp
      exact hresult
    · cases hp
  have hlogs : ∀ s ∈ c.logs, readLog s.toValue = .ok s := by
    obtain ⟨members, entries, -, -, -, rfl⟩ := (read_eq_ok_iff _ _ _).mp h
    exact fun s hs => readLog_of_mem_readLogs hs
  refine ⟨_, read_toValue_of_parts hinit hinstances hlogs hvalid hurl, rfl, rfl, rfl, rfl, ?_⟩
  -- the document form looks at the valid instances without their indices
  have hforms (c : Configuration) : c.validInstances.map (fun p => p.2.toValue) =
      (c.validInstances.map Prod.snd).map Instance.toValue := by
    rw [List.map_map]
    rfl
  rw [toValue_eq, toValue_eq]
  simp only [members, hforms]
  rw [validInstances, map_snd_valid?_validOutcomes]

/-- One instance of two is valid, with a service that has no components and another that is left
out, and so is one log source of two. -/
theorem read_toValue_of_read_second_entry :
    let entries := [Value.null, .object
      [("services", .object [("HDFS", .null), ("YARN", .int 1)]),
        ("tags", .array []), ("url", .string "http://[::1]:8080")]]
    let members : Dict Value :=
      [("init_config", .object [("timeout", .int 20)]), ("instances", .array entries),
        ("logs", .array [.object [("port", .int 514), ("type", .string "udp")], .int 1])]
    let c := ofMembers builtin members entries
    ∃ c', read builtin (.object members) = .ok c ∧ c.validInstances.map Prod.fst = [1] ∧
      c.logs.map (·.port) = [some 514] ∧
      read builtin c.toValue = .ok c' ∧ c'.diagnostics = [] ∧ c'.init = c.init ∧
      c'.logs = c.logs ∧ c'.instances.map (·.index) = [0] ∧ c'.toValue = c.toValue := by
  intro entries members c
  have h : read builtin (.object members) = .ok c := rfl
  have hvalid : c.validInstances = [(1, _)] := rfl
  have hurl : ∀ p ∈ c.validInstances, p.2.url.ReadsBack := by
    rw [hvalid]
    intro p hp
    cases List.mem_singleton.mp hp
    rfl
  obtain ⟨c', hread, hreports, hinit, hlogs, hinstances, hvalue⟩ :=
    read_toValue_of_read (.object members) c h (by simp [hvalid]) hurl
  refine ⟨c', h, ?_, rfl, hread, hreports, hinit, hlogs, ?_, hvalue⟩
  · rw [hvalid]
    rfl
  · rw [hinstances, hvalid]
    rfl

end ClusterMonitor.Configuration

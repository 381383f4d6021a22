import ClusterMonitor.Proofs.Config.RoundTrip
import ClusterMonitor.Proofs.Config.SilentParts
import ClusterMonitor.Proofs.Log.Members

/-!
# Documents without a report

A document that is read without any report is shown again as it was written, part by part. There is
one exception: members of log sources and of their rules that no field has the name of are dropped,
and nothing is said of them.

* `Configuration.readPart` — a document without such members.
* `Configuration.shownBy_toValue` — of a silent document, all the rest is shown.
* `Configuration.follow?_toValue_of_silent` — the same, place by place.
* `Configuration.follow?_toValue_of_not_hasField` — what is dropped of a log source is never shown.
-/

namespace ClusterMonitor.Configuration

open Schema (builtin)

/-- The part of a member of a document that is read: of log sources, the part of each. -/
def readMember : String → Value → Value := Value.mapItemsOf "logs" LogSource.readPart

/-- The part of a document that is read: all but the members of log sources and their rules that no
field has the name of. -/
def readPart : Value → Value
  | .object members => .object (Dict.mapEntries readMember members)
  | v => v

/-! ## Instances -/

variable {s : Schema}

theorem readInstance_of_silent {index : Nat} {entry : Value}
    (h : (readInstance s index entry).2 = []) :
    ∃ i, Instance.read s index entry = (.ok i, []) ∧
      (readInstance s index entry).1 = ⟨index, .ok i⟩ := by
  unfold readInstance at h ⊢
  rcases hread : Instance.read s index entry with ⟨e | i, reports⟩
  · simp [hread] at h
  · simp only [hread] at h ⊢
    exact ⟨i, by rw [h], rfl⟩

/-- Without a report, each entry is a valid instance, in its place. -/
theorem readInstances_of_silent {start : Nat} {entries : List Value}
    (h : (readInstances s start entries).2 = []) :
    ∃ instances : List Instance,
      ((readInstances s start entries).1.filterMap valid?).map Prod.snd = instances ∧
      entries.length = instances.length ∧
      ∀ place entry, entries[place]? = some entry →
        ∃ i, instances[place]? = some i ∧ Instance.read s (start + place) entry = (.ok i, []) := by
  induction entries generalizing start with
  | nil => exact ⟨[], rfl, rfl, by simp⟩
  | cons entry rest ih =>
    have hreports : (readInstance s start entry).2 ++ (readInstances s (start + 1) rest).2 = [] := h
    obtain ⟨hentry, hrest⟩ := List.append_eq_nil_iff.mp hreports
    obtain ⟨i, hread, houtcome⟩ := readInstance_of_silent hentry
    obtain ⟨instances, hinstances, hlength, hplaces⟩ := ih hrest
    refine ⟨i :: instances, ?_, by simp [hlength], ?_⟩
    · rw [← hinstances]
      simp [readInstances, houtcome, valid?]
    · intro place e he
      cases place with
      | zero =>
        cases he
        exact ⟨i, rfl, hread⟩
      | succ place =>
        obtain ⟨j, hj, hreadj⟩ := hplaces place e he
        have hnext : start + 1 + place = start + (place + 1) := by omega
        exact ⟨j, hj, hnext ▸ hreadj⟩

/-- The instances of a silent document show all that was given in their entries. -/
theorem shownBy_instances {entries : List Value}
    (h : (readInstances builtin 0 entries).2 = []) :
    ShownBy [.key "instances"] (.array entries)
      (.array (((readInstances builtin 0 entries).1.filterMap valid?).map fun p => p.2.toValue)) := by
  obtain ⟨instances, hinstances, hlength, hplaces⟩ := readInstances_of_silent h
  have hforms : ((readInstances builtin 0 entries).1.filterMap valid?).map (fun p => p.2.toValue) =
      instances.map Instance.toValue := by
    rw [← hinstances, List.map_map]
    rfl
  rw [hforms]
  refine ShownBy.array (by simp [hlength]) fun place entry hentry => ?_
  obtain ⟨i, hi, hread⟩ := hplaces place entry hentry
  rw [Nat.zero_add] at hread
  exact ⟨i.toValue, by simp [hi], Instance.shownBy_toValue hread⟩

/-! ## Log sources -/

/-- Without a report, each entry is a log source, in its place. -/
theorem readLogEntries_of_silent {start : Nat} {entries : List Value}
    (h : (readLogEntries start entries).2 = []) :
    List.Forall₂ (fun entry source => readLog entry = .ok source) entries
      (readLogEntries start entries).1 := by
  induction entries generalizing start with
  | nil => exact .nil
  | cons entry rest ih =>
    cases hread : readLog entry with
    | error reason => simp [readLogEntries, hread] at h
    | ok source =>
      simp only [readLogEntries, hread] at h ⊢
      exact .cons hread (ih h)

theorem readLogs_of_silent {v : Value} (h : (readLogs (some v)).2 = []) (hne : v.isEmpty = false) :
    ∃ entries, v = .array entries ∧
      List.Forall₂ (fun entry source => readLog entry = .ok source) entries
        (readLogs (some v)).1 := by
  cases v with
  | array entries => exact ⟨entries, rfl, readLogEntries_of_silent h⟩
  | null => cases hne
  | _ => cases h

/-- The log sources of a silent document show all that was read of their entries. -/
theorem shownBy_logs {entries : List Value} {sources : List LogSource}
    (h : List.Forall₂ (fun entry source => readLog entry = .ok source) entries sources) :
    ShownBy [.key "logs"] (.array (entries.map LogSource.readPart))
      (.array (sources.map LogSource.toValue)) := by
  refine ShownBy.array_of_forall₂ h fun index entry source hread => ?_
  have hdecode := ((readLog_eq_ok_iff entry source).mp hread).1
  exact LogSource.shownBy_toValue hdecode index

/-! ## Documents -/

theorem mem_knownKeys_of_silent {members : Dict Value} (h : unknownMembers members = [])
    {key : String} {v : Value} (hv : Dict.get? members key = some v) : key ∈ knownKeys := by
  rw [unknownMembers, List.map_eq_nil_iff, List.filter_eq_nil_iff] at h
  have hkey : key ∈ Dict.keys members := by
    rw [Dict.mem_keys_iff, hv]
    rfl
  simpa using h key hkey

/-- Of a document that is read without a report, all that is read is shown. -/
theorem shownBy_toValue {document : Value} {c : Configuration}
    (h : read builtin document = .ok c) (hsilent : c.diagnostics = []) :
    ShownBy [] (readPart document) c.toValue := by
  obtain ⟨members, entries, rfl, hentries, -, rfl⟩ := (read_eq_ok_iff _ _ _).mp h
  simp only [ofMembers, List.append_eq_nil_iff] at hsilent
  obtain ⟨⟨⟨hinit, hinstances⟩, hlogs⟩, hunknown⟩ := hsilent
  rw [toValue_eq]
  refine ShownBy.object fun key part hpart hne => ?_
  rw [get?_ofPairs_members]
  rw [Dict.get?_mapEntries] at hpart
  obtain ⟨v, hv, rfl⟩ := Option.map_eq_some_iff.mp hpart
  rw [readMember, Value.isEmpty_mapItemsOf] at hne
  -- a member with another key would be reported
  have hknown := mem_knownKeys_of_silent hunknown hv
  simp only [knownKeys, List.mem_cons, List.not_mem_nil, or_false] at hknown
  rcases hknown with rfl | rfl | rfl
  · rw [hv] at hinit
    obtain ⟨supplied, rfl⟩ := InitSection.exists_object_of_silent hinit hne
    have hshown := InitSection.shownBy_toValue hinit [.key "init_config"]
    refine ⟨_, rfl, ?_⟩
    rw [ofMembers, hv]
    exact hshown
  · cases hentries.symm.trans hv
    exact ⟨_, rfl, shownBy_instances hinstances⟩
  · rw [hv] at hlogs
    obtain ⟨items, rfl, hread⟩ := readLogs_of_silent hlogs hne
    -- the member is left out of the form only where there is no source
    have hsome : (readLogs (some (.array items))).1.isEmpty = false := by
      cases hsources : (readLogs (some (.array items))).1 with
      | nil =>
        rw [hsources] at hread
        cases hread
        cases hne
      | cons _ _ => rfl
    refine ⟨.array ((readLogs (some (.array items))).1.map LogSource.toValue), ?_,
      shownBy_logs hread⟩
    simp [Configuration.members, ofMembers, Dict.get?, Dict.get?_part, hv, hsome]

/-- Of a document that is read without a report, whatever is written at a place, other than `null`
and what is empty, is found at the same place of the document form, members of log sources and their
rules that no field has the name of excepted. -/
theorem follow?_toValue_of_silent {document : Value} {c : Configuration}
    (h : read builtin document = .ok c) (hsilent : c.diagnostics = []) {place : List Step}
    {v : Value} (hv : (readPart document).follow? place = some v) (hne : v.isEmpty = false) :
    ∃ w, c.toValue.follow? place = some w ∧ ShownAs place v w :=
  shownBy_toValue h hsilent place v hv hne

/-- A timeout that is given as an integer. -/
theorem follow?_toValue_of_silent_timeout :
    let members : Dict Value :=
      [("init_config", .object [("timeout", .int 20)]),
        ("instances", .array [.object [("url", .string "http://[::1]:8080")]]),
        ("logs", .array [.object [("port", .int 514), ("type", .string "udp")]])]
    let c := ofMembers builtin members [.object [("url", .string "http://[::1]:8080")]]
    read builtin (.object members) = .ok c ∧ c.diagnostics = [] ∧
      ∃ w, c.toValue.follow? [.key "init_config", .key "timeout"] = some w ∧
        ShownAs [.key "init_config", .key "timeout"] (.int 20) w := by
  intro members c
  have h : read builtin (.object members) = .ok c := rfl
  have hsilent : c.diagnostics = [] := rfl
  exact ⟨h, hsilent, follow?_toValue_of_silent h hsilent rfl rfl⟩

/-- A member of an entry of `logs` that no field has the name of is never shown. -/
theorem follow?_toValue_of_not_hasField {key : String} (h : LogSource.hasField key = false)
    (c : Configuration) (index : Nat) (path : List Step) :
    c.toValue.follow? (.key "logs" :: .item index :: .key key :: path) = none := by
  have hlogs : Dict.get? c.members "logs" =
      if c.logs.isEmpty then none else some (.array (c.logs.map LogSource.toValue)) := by
    simp [members, Dict.get?, Dict.get?_part]
  rw [toValue_eq, Value.ofPairs, Value.follow?, get?_ofPairs_members, hlogs]
  split
  · rfl
  · cases hs : c.logs[index]? with
    | none => simp [Value.follow?, hs]
    | some s =>
      have hunread := LogSource.get?_members_of_not_hasField h s
      simp [Value.follow?, hs, LogSource.toValue_eq, hunread]

/-- A misspelt list of rules is dropped, and nothing is said of it. -/
theorem silent_of_misspelt_rules :
    let rule := Value.object
      [("name", .string "secrets"), ("pattern", .string "a"), ("type", .string "mask_sequences")]
    let entry := Value.object
      [("log_processing_rule", .array [rule]), ("path", .string "/var/log/a.log"),
        ("type", .string "file")]
    let instances := [Value.object [("url", .string "http://[::1]:8080")]]
    let members : Dict Value := [("instances", .array instances), ("logs", .array [entry])]
    let c := ofMembers builtin members instances
    let place := [Step.key "logs", .item 0, .key "log_processing_rule"]
    read builtin (.object members) = .ok c ∧ c.diagnostics = [] ∧
      (Value.object members).follow? place = some (.array [rule]) ∧
      c.toValue.follow? place = none := by
  intro rule entry instances members c place
  have h : read builtin (.object members) = .ok c := rfl
  have hsilent : c.diagnostics = [] := rfl
  exact ⟨h, hsilent, rfl, follow?_toValue_of_not_hasField rfl c 0 []⟩

end ClusterMonitor.Configuration

import ClusterMonitor.Proofs.Config.Isolation
import Mathlib.Data.List.Perm.Basic

/-!
# Everything in a document is accounted for

Each entry of a document that is read either becomes something or is reported on, once, in a scope
of its own. No other reader reports in that scope, so the reports of a scope can be counted.

* `Diagnostic.ofScope`, `Configuration.reportsAt` — the reports of one scope.
* `Configuration.Accounts` — what a configuration owes the members of its document.
* `Configuration.reportsAt_instance`, `Configuration.reportsAt_logSource`,
  `Configuration.reportsAt_document` — the reports of a scope come from one reader.
* `Configuration.read_accounts` — which documents are read, and that all in them is accounted for.
-/

namespace ClusterMonitor

open Diagnostic

/-! ## The reports of a scope -/

namespace Diagnostic

/-- The reports of one scope, in order. -/
def ofScope (scope : ErrorScope) (reports : List Diagnostic) : List Diagnostic :=
  reports.filter fun d => d.scope = scope

/-- The reports of a scope can be picked out of two lists one after the other. -/
@[simp] theorem ofScope_append (scope : ErrorScope) (xs ys : List Diagnostic) :
    ofScope scope (xs ++ ys) = ofScope scope xs ++ ofScope scope ys := by
  simp [ofScope]

theorem ofScope_singleton {scope : ErrorScope} {d : Diagnostic} (h : d.scope = scope) :
    ofScope scope [d] = [d] := by
  simp [ofScope, h]

/-- Reports that all have other scopes have none of this one. -/
theorem ofScope_eq_nil {P : ErrorScope → Prop} {reports : List Diagnostic} (h : AllIn P reports)
    {scope : ErrorScope} (hscope : ¬ P scope) : ofScope scope reports = [] := by
  rw [ofScope, List.filter_eq_nil_iff]
  intro d hd heq
  have hP := h d hd
  rw [of_decide_eq_true heq] at hP
  exact hscope hP

/-- The reports of a scope are among those on the part that the scope lies in. -/
theorem ofScope_on_part (scope : ErrorScope) (reports : List Diagnostic) :
    ofScope scope (on scope.part reports) = ofScope scope reports := by
  rw [ofScope, ofScope, on, List.filter_filter]
  refine List.filter_congr fun d _ => ?_
  by_cases h : d.scope = scope <;> simp [h]

end Diagnostic

namespace Configuration

/-- The reports of one scope. -/
def reportsAt (c : Configuration) (scope : ErrorScope) : List Diagnostic :=
  ofScope scope c.diagnostics

/-- The reports of a scope are among those on the part that it lies in. -/
theorem reportsAt_eq (c : Configuration) (scope : ErrorScope) :
    c.reportsAt scope = ofScope scope (c.reportsOn scope.part) :=
  (ofScope_on_part scope c.diagnostics).symm

/-! ## What is owed -/

/-- The entries of `logs`, if it is a list. -/
def logEntries (members : Dict Value) : List Value :=
  ((Dict.get? members "logs").bind Value.asArray?).getD []

/-- The log source that an entry stands for, if it can be decoded and used. -/
def usable? (entry : Value) : Option LogSource :=
  match LogSource.decode (Node.ofValue entry) with
  | .ok source => if source.validate = .ok () then some source else none
  | .error _ => none

/-- What a configuration owes the members of its document and the entries of its `instances`. -/
structure Accounts (s : Schema) (members : Dict Value) (entries : List Value)
    (c : Configuration) : Prop where
  /-- Each entry has one outcome, its own, under the index of its place. -/
  outcomes : c.instances =
    entries.mapIdx fun index entry => ⟨index, (Instance.read s index entry).1⟩
  /-- Each index is that of a valid instance or of a failed one, and not of both. -/
  partition : (c.validInstances.map Prod.fst ++ c.failedInstances.map Prod.fst).Perm
    (List.range entries.length)
  validInOrder : (c.validInstances.map Prod.fst).Sublist (List.range entries.length)
  failedInOrder : (c.failedInstances.map Prod.fst).Sublist (List.range entries.length)
  /-- A failed instance is reported once, as an error with the code and the text of its failure. -/
  failed : ∀ index e, (index, e) ∈ c.failedInstances →
    c.reportsAt (.instance index) = [.error e.code (.instance index) e.message]
  valid : ∀ index i, (index, i) ∈ c.validInstances → c.reportsAt (.instance index) = []
  /-- The log sources are the usable entries. -/
  kept : c.logs = (logEntries members).filterMap usable?
  /-- Every other entry of `logs` is reported once. -/
  dropped : ∀ index entry, (logEntries members)[index]? = some entry → usable? entry = none →
    ∃ reason, c.reportsAt (.logSource index) =
      [.error Code.invalidLogSource (.logSource index) reason]
  notDropped : ∀ index entry, (logEntries members)[index]? = some entry →
    usable? entry ≠ none → c.reportsAt (.logSource index) = []
  /-- What stands for `logs` and is no list is reported once, and there are no log sources. -/
  misshapen : ∀ v, Dict.get? members "logs" = some v → v ≠ .null → v.asArray? = none →
    c.logs = [] ∧ (c.reportsAt .document).filter (·.isError) =
      [.error Code.invalidLogSource .document
        s!"`logs` must be a sequence, got {v.describe}; ignored"]
  /-- Each member that means nothing is warned of once. -/
  unknown : (c.reportsAt .document).filter (fun d => !d.isError) =
    ((Dict.keys members).filter fun key => key ∉ ["init_config", "instances", "logs"]).map
      fun key => .warning Code.unknownOption .document s!"unknown top-level key `{key}` ignored"
  hasErrors : (c.failedInstances ≠ [] ∨ ∃ entry ∈ logEntries members, usable? entry = none) →
    c.hasErrors = true

/-! ## Instances -/

/-- Reading an entry reports in the scope of the instance only that it failed. -/
theorem ofScope_readInstance (s : Schema) (index : Nat) (entry : Value) :
    ofScope (.instance index) (readInstance s index entry).2 =
      match (Instance.read s index entry).1 with
      | .ok _ => []
      | .error e => [.error e.code (.instance index) e.message] := by
  have hinside : ¬ Instance.IsInside index (.instance index) := by
    rintro (⟨option, h⟩ | ⟨service, component, h⟩) <;> cases h
  have hreports := ofScope_eq_nil (Instance.read_isInside s index entry) hinside
  rcases hread : Instance.read s index entry with ⟨e | i, reports⟩
  · rw [hread] at hreports
    have hown : ofScope (.instance index) [.error e.code (.instance index) e.message] = _ :=
      ofScope_singleton rfl
    simp [readInstance, hread, hreports, hown]
  · rw [hread] at hreports
    simp [readInstance, hread, hreports]

/-- An instance is reported itself if it fails, with its error, and not otherwise. -/
theorem reportsAt_instance {s : Schema} {document : Value} {c : Configuration}
    (h : read s document = .ok c) {index : Nat} {entry : Value}
    (hentry : entryAt? document index = some entry) :
    c.reportsAt (.instance index) =
      match (Instance.read s index entry).1 with
      | .ok _ => []
      | .error e => [.error e.code (.instance index) e.message] := by
  rw [reportsAt_eq, ← ofScope_readInstance s index entry]
  simp [ErrorScope.part, reportsOn_instance h index, hentry]

/-- The indices of the valid instances are those of the outcomes that are valid. -/
theorem map_fst_filterMap_valid? (outcomes : List InstanceOutcome) :
    (outcomes.filterMap valid?).map Prod.fst =
      (outcomes.filter fun o => (valid? o).isSome).map (·.index) := by
  induction outcomes with
  | nil => rfl
  | cons o rest ih => cases h : o.result <;> simp [valid?, h, ih]

/-- The failed instances are those that are not valid. -/
theorem map_fst_filterMap_failed? (outcomes : List InstanceOutcome) :
    (outcomes.filterMap failed?).map Prod.fst =
      (outcomes.filter fun o => !(valid? o).isSome).map (·.index) := by
  induction outcomes with
  | nil => rfl
  | cons o rest ih => cases h : o.result <;> simp [valid?, failed?, h, ih]

/-- The valid and the failed instances share out the indices, each in order. -/
theorem partition_indices (c : Configuration) :
    (c.validInstances.map Prod.fst ++ c.failedInstances.map Prod.fst).Perm
        (c.instances.map (·.index)) ∧
      (c.validInstances.map Prod.fst).Sublist (c.instances.map (·.index)) ∧
      (c.failedInstances.map Prod.fst).Sublist (c.instances.map (·.index)) := by
  rw [validInstances, failedInstances, map_fst_filterMap_valid?, map_fst_filterMap_failed?]
  refine ⟨?_, List.filter_sublist.map _, List.filter_sublist.map _⟩
  rw [← List.map_append]
  simpa using (List.filter_append_perm (fun o => (valid? o).isSome) c.instances).map (·.index)

/-! ## Log sources -/

/-- An entry is usable if it is read as a log source. -/
theorem toOption_readLog (entry : Value) : (readLog entry).toOption = usable? entry := by
  unfold readLog usable?
  cases LogSource.decode (Node.ofValue entry) with
  | error e => rfl
  | ok source => cases h : source.validate <;> simp [h, Except.toOption]

/-- The log sources are those of the usable entries, in their order. -/
theorem readLogEntries_fst (start : Nat) (entries : List Value) :
    (readLogEntries start entries).1 = entries.filterMap usable? := by
  induction entries generalizing start with
  | nil => rfl
  | cons entry rest ih =>
    rw [List.filterMap_cons, ← toOption_readLog, ← ih (start + 1)]
    cases h : readLog entry <;> simp [readLogEntries, h, Except.toOption]

/-- The report on an entry of `logs` that is dropped. -/
def logReports (index : Nat) (entry : Value) : List Diagnostic :=
  match readLog entry with
  | .ok _ => []
  | .error reason => [.error Code.invalidLogSource (.logSource index) reason]

/-- The reports on the entries come in their order. -/
theorem readLogEntries_cons_snd (start : Nat) (entry : Value) (rest : List Value) :
    (readLogEntries start (entry :: rest)).2 =
      logReports start entry ++ (readLogEntries (start + 1) rest).2 := by
  cases h : readLog entry <;> simp [readLogEntries, logReports, h]

/-- An entry that is not usable is reported under its own index. -/
theorem logReports_scope (index : Nat) (entry : Value) :
    AllIn (· = .logSource index) (logReports index entry) := by
  unfold logReports
  split
  · exact allIn_nil _
  · exact allIn_cons.mpr ⟨rfl, allIn_nil _⟩

/-- The reports on entries counted from `start` concern entries from `start` on. -/
theorem readLogEntries_scope (start : Nat) (entries : List Value) :
    AllIn (fun scope => ∃ index, start ≤ index ∧ scope = .logSource index)
      (readLogEntries start entries).2 := by
  induction entries generalizing start with
  | nil => simp [readLogEntries]
  | cons entry rest ih =>
    rw [readLogEntries_cons_snd]
    refine allIn_append.mpr ⟨(logReports_scope start entry).mono ?_, (ih (start + 1)).mono ?_⟩
    · rintro scope rfl
      exact ⟨start, Nat.le_refl start, rfl⟩
    · rintro scope ⟨index, hle, rfl⟩
      exact ⟨index, by omega, rfl⟩

/-- An entry is reported on in its own scope, and no other entry is. -/
theorem ofScope_readLogEntries (start place : Nat) (entries : List Value) :
    ofScope (.logSource (start + place)) (readLogEntries start entries).2 =
      (entries[place]?.map (logReports (start + place))).getD [] := by
  induction entries generalizing start place with
  | nil => rfl
  | cons entry rest ih =>
    rw [readLogEntries_cons_snd, ofScope_append]
    cases place with
    | zero =>
      -- the reports that follow are on entries further on
      have hlater : ofScope (.logSource start) (readLogEntries (start + 1) rest).2 = [] := by
        refine ofScope_eq_nil (readLogEntries_scope (start + 1) rest) ?_
        rintro ⟨index, hle, hscope⟩
        cases hscope
        omega
      have hown : ofScope (.logSource start) (logReports start entry) = logReports start entry := by
        refine List.filter_eq_self.mpr fun d hd => ?_
        exact decide_eq_true (logReports_scope start entry d hd)
      simp [hlater, hown]
    | succ place =>
      -- the first entry is reported on in its own scope only
      have hnext : start + 1 + place = start + (place + 1) := by omega
      have hfirst : ofScope (.logSource (start + (place + 1))) (logReports start entry) = [] := by
        refine ofScope_eq_nil (logReports_scope start entry) ?_
        intro hscope
        cases hscope
      have hrest := ih (start + 1) place
      rw [hnext] at hrest
      simp [hfirst, hrest]

/-- Where `logs` is no list, there are no log sources, and one report says so. -/
theorem readLogs_of_misshapen {v : Value} (hnull : v ≠ .null) (harray : v.asArray? = none) :
    readLogs (some v) = ([], [.error Code.invalidLogSource .document
      s!"`logs` must be a sequence, got {v.describe}; ignored"]) := by
  cases v with
  | null => exact absurd rfl hnull
  | array items => cases harray
  | _ => rfl

/-- What stands for `logs` is a list, or nothing, or something else that is no list. -/
theorem readLogs_cases (logs? : Option Value) :
    (∃ items, logs? = some (.array items)) ∨
      (logs?.bind Value.asArray?).getD [] = [] ∧
        (readLogs logs? = ([], []) ∨
          ∃ message, readLogs logs? = ([], [.error Code.invalidLogSource .document message])) := by
  cases logs? with
  | none => exact Or.inr ⟨rfl, Or.inl rfl⟩
  | some v =>
    cases v with
    | array items => exact Or.inl ⟨items, rfl⟩
    | null => exact Or.inr ⟨rfl, Or.inl rfl⟩
    | _ => exact Or.inr ⟨rfl, Or.inr ⟨_, rfl⟩⟩

/-- The log sources are those of the usable entries of the list, if it is one. -/
theorem readLogs_fst (logs? : Option Value) :
    (readLogs logs?).1 = ((logs?.bind Value.asArray?).getD []).filterMap usable? := by
  rcases readLogs_cases logs? with ⟨items, rfl⟩ | ⟨hitems, hread | ⟨message, hread⟩⟩
  · exact readLogEntries_fst 0 items
  · rw [hread, hitems]
    rfl
  · rw [hread, hitems]
    rfl

/-- The reports of a log source are those of its entry. -/
theorem ofScope_logSource_readLogs (logs? : Option Value) (index : Nat) :
    ofScope (.logSource index) (readLogs logs?).2 =
      (((logs?.bind Value.asArray?).getD [])[index]?.map (logReports index)).getD [] := by
  rcases readLogs_cases logs? with ⟨items, rfl⟩ | ⟨hitems, hread | ⟨message, hread⟩⟩
  · have hentries := ofScope_readLogEntries 0 index items
    rwa [Nat.zero_add] at hentries
  · rw [hread, hitems]
    rfl
  · rw [hread, hitems]
    rfl

/-- Of `logs` the document as a whole is never warned. -/
theorem ofScope_document_readLogs (logs? : Option Value) :
    ∀ d ∈ ofScope .document (readLogs logs?).2, d.isError = true := by
  rcases readLogs_cases logs? with ⟨items, rfl⟩ | ⟨-, hread | ⟨message, hread⟩⟩
  · -- entries are reported on in their own scopes
    have hnone : ofScope .document (readLogs (some (.array items))).2 = [] := by
      refine ofScope_eq_nil (readLogEntries_scope 0 items) ?_
      rintro ⟨index, -, hscope⟩
      cases hscope
    simp [hnone]
  · simp [hread, ofScope]
  · have hown : ofScope .document [.error Code.invalidLogSource .document message] = _ :=
      ofScope_singleton rfl
    rw [hread, hown]
    simp [Diagnostic.isError, Diagnostic.error]

theorem reportsAt_logSource {s : Schema} {members : Dict Value} {c : Configuration}
    (h : read s (.object members) = .ok c) (index : Nat) :
    c.reportsAt (.logSource index) =
      ((logEntries members)[index]?.map (logReports index)).getD [] := by
  rw [reportsAt_eq]
  change ofScope _ (c.reportsOn .logs) = _
  rw [(reportsOn_logs h).2]
  exact (ofScope_on_part (.logSource index) _).trans
    (ofScope_logSource_readLogs (Dict.get? members "logs") index)

/-! ## The document as a whole -/

/-- The document itself is reported for a misshapen `logs` and for unknown members. -/
theorem reportsAt_document {s : Schema} {members : Dict Value} {c : Configuration}
    (h : read s (.object members) = .ok c) :
    c.reportsAt .document =
      ofScope .document (readLogs (Dict.get? members "logs")).2 ++ unknownMembers members := by
  obtain ⟨_, entries, ⟨⟩, -, -, rfl⟩ := (read_eq_ok_iff _ _ _).mp h
  have hinit : ofScope .document (InitSection.read s (Dict.get? members "init_config")).2 = [] :=
    ofScope_eq_nil (P := fun scope => scope.part = .initConfig) (InitSection.read_allOf s _)
      (by simp [ErrorScope.part])
  have hinstances : ofScope .document (readInstances s 0 entries).2 = [] := by
    refine ofScope_eq_nil (P := fun scope => ∃ index, scope.part = .instance index) ?_
      (by simp [ErrorScope.part])
    intro d hd
    obtain ⟨index, -, hpart⟩ := readInstances_part s 0 entries d hd
    exact ⟨index, hpart⟩
  have hunknown : ofScope .document (unknownMembers members) = unknownMembers members := by
    refine List.filter_eq_self.mpr fun d hd => ?_
    obtain ⟨key, -, rfl⟩ := List.mem_map.mp hd
    rfl
  simp [reportsAt, ofMembers, hinit, hinstances, hunknown]

/-- Each member with an unknown key is reported once, in the order of the keys. -/
theorem unknownMembers_eq (members : Dict Value) :
    unknownMembers members =
      ((Dict.keys members).filter fun key => key ∉ ["init_config", "instances", "logs"]).map
        fun key =>
          .warning Code.unknownOption .document s!"unknown top-level key `{key}` ignored" := by
  unfold unknownMembers
  congr 1
  refine List.filter_congr fun key _ => ?_
  simp [knownKeys]

/-- Unknown members are no errors. -/
theorem unknownMembers_warning {members : Dict Value} {d : Diagnostic}
    (hd : d ∈ unknownMembers members) : d.isError = false := by
  obtain ⟨key, -, rfl⟩ := List.mem_map.mp hd
  rfl

/-- The errors of the document as a whole are on `logs`, and the warnings are on its members. -/
theorem severities_at_document {s : Schema} {members : Dict Value} {c : Configuration}
    (h : read s (.object members) = .ok c) :
    (c.reportsAt .document).filter (·.isError) =
        ofScope .document (readLogs (Dict.get? members "logs")).2 ∧
      (c.reportsAt .document).filter (fun d => !d.isError) = unknownMembers members := by
  have hlogs := ofScope_document_readLogs (Dict.get? members "logs")
  rw [reportsAt_document h, List.filter_append, List.filter_append]
  constructor
  · have hunknown : (unknownMembers members).filter (·.isError) = [] := by
      rw [List.filter_eq_nil_iff]
      intro d hd
      simp [unknownMembers_warning hd]
    rw [hunknown, List.append_nil]
    exact List.filter_eq_self.mpr hlogs
  · have herrors : (ofScope .document (readLogs (Dict.get? members "logs")).2).filter
        (fun d => !d.isError) = [] := by
      rw [List.filter_eq_nil_iff]
      intro d hd
      simp [hlogs d hd]
    rw [herrors, List.nil_append]
    refine List.filter_eq_self.mpr fun d hd => ?_
    simp [unknownMembers_warning hd]

/-! ## The whole -/

/-- One error is enough for a configuration to have errors. -/
theorem hasErrors_of_mem {c : Configuration} {scope : ErrorScope} {d : Diagnostic}
    (h : d ∈ c.reportsAt scope) (herror : d.isError = true) : c.hasErrors = true :=
  List.any_eq_true.mpr ⟨d, List.mem_of_mem_filter h, herror⟩

/-- An entry is reported, as one error, exactly if it is not usable. -/
theorem logReports_of_usable? {entry : Value} {index : Nat} :
    (usable? entry ≠ none → logReports index entry = []) ∧
      (usable? entry = none → ∃ reason, logReports index entry =
        [.error Code.invalidLogSource (.logSource index) reason]) := by
  rw [← toOption_readLog]
  cases h : readLog entry <;> simp [logReports, h, Except.toOption]

/-- What the reading of a document owes its members, part by part. -/
theorem accounts_of_read {s : Schema} {members : Dict Value} {entries : List Value}
    {c : Configuration} (h : read s (.object members) = .ok c)
    (hentries : Dict.get? members "instances" = some (.array entries)) :
    Accounts s members entries c := by
  have hc : c = ofMembers s members entries := by
    obtain ⟨_, entries', ⟨⟩, hentries', -, hc⟩ := (read_eq_ok_iff _ _ _).mp h
    cases hentries.symm.trans hentries'
    exact hc
  have houtcomes : c.instances =
      entries.mapIdx fun index entry => ⟨index, (Instance.read s index entry).1⟩ := by
    rw [hc]
    exact readInstances_fst s entries
  have hindices : c.instances.map (·.index) = List.range entries.length := by
    rw [houtcomes]
    exact List.ext_getElem (by simp) (by simp)
  have hlogs : c.logs = (logEntries members).filterMap usable? := by
    rw [hc]
    exact readLogs_fst (Dict.get? members "logs")
  -- each report is told by the entry that it is about
  have hreports : ∀ o ∈ c.instances, c.reportsAt (.instance o.index) =
      match o.result with
      | .ok _ => []
      | .error e => [.error e.code (.instance o.index) e.message] := by
    intro o ho
    obtain ⟨entry, hentry, hresult⟩ := entry_of_mem_mapIdx (houtcomes ▸ ho)
    rw [hresult]
    exact reportsAt_instance h ((entryAt?_object hentries o.index).trans hentry)
  have hfailed : ∀ index e, (index, e) ∈ c.failedInstances →
      c.reportsAt (.instance index) = [.error e.code (.instance index) e.message] :=
    fun index e hmem => hreports _ (mem_failedInstances.mp hmem)
  have hdropped : ∀ index entry, (logEntries members)[index]? = some entry →
      usable? entry = none → ∃ reason, c.reportsAt (.logSource index) =
        [.error Code.invalidLogSource (.logSource index) reason] := by
    intro index entry hentry hunusable
    rw [reportsAt_logSource h, hentry]
    exact logReports_of_usable?.2 hunusable
  obtain ⟨hpartition, hvalidInOrder, hfailedInOrder⟩ := partition_indices c
  rw [hindices] at hpartition hvalidInOrder hfailedInOrder
  refine
    { outcomes := houtcomes
      partition := hpartition
      validInOrder := hvalidInOrder
      failedInOrder := hfailedInOrder
      failed := hfailed
      valid := fun index i hmem => hreports _ (mem_validInstances.mp hmem)
      kept := hlogs
      dropped := hdropped
      notDropped := ?notDropped
      misshapen := ?misshapen
      unknown := ?unknown
      hasErrors := ?hasErrors }
  case notDropped =>
    intro index entry hentry husable
    rw [reportsAt_logSource h, hentry]
    exact logReports_of_usable?.1 husable
  case misshapen =>
    intro v hv hnull harray
    have hread := readLogs_of_misshapen hnull harray
    refine ⟨by rw [hlogs, logEntries, hv, Option.bind_some, harray]; rfl, ?_⟩
    rw [(severities_at_document h).1, hv, hread]
    exact ofScope_singleton rfl
  case unknown => rw [(severities_at_document h).2, unknownMembers_eq]
  case hasErrors =>
    rintro (hsome | ⟨entry, hmem, hunusable⟩)
    · obtain ⟨⟨index, e⟩, hmem⟩ := List.exists_mem_of_ne_nil _ hsome
      exact hasErrors_of_mem (hfailed index e hmem ▸ List.mem_singleton_self _) rfl
    · obtain ⟨index, hindex⟩ := List.mem_iff_getElem?.mp hmem
      obtain ⟨reason, hreport⟩ := hdropped index entry hindex hunusable
      exact hasErrors_of_mem (hreport ▸ List.mem_singleton_self _) rfl

/-- A document can be refused for its shape only. -/
theorem read_error_parseFailed {s : Schema} {document : Value} {e : ConfigError}
    (h : read s document = .error e) : ∃ reason, e = .parseFailed reason := by
  unfold read at h
  split at h
  · rename_i fault hfault
    cases h
    exact ⟨fault.message, rfl⟩
  · cases h

/-- A document is read if and only if it is an object whose `instances` is a list of one entry or
more, and is refused with a parse error otherwise. Everything in a document that is read is
accounted for. -/
theorem read_accounts (s : Schema) (document : Value) :
    ((∃ c, read s document = .ok c) ↔ ∃ members entries, document = .object members ∧
      Dict.get? members "instances" = some (.array entries) ∧ entries ≠ []) ∧
    (∀ e, read s document = .error e → ∃ reason, e = .parseFailed reason) ∧
    ∀ c, read s document = .ok c → ∃ members entries, document = .object members ∧
      Dict.get? members "instances" = some (.array entries) ∧ Accounts s members entries c := by
  refine ⟨⟨?_, ?_⟩, fun e => read_error_parseFailed, ?_⟩
  · rintro ⟨c, h⟩
    obtain ⟨members, entries, hdocument, hentries, hne, -⟩ := (read_eq_ok_iff _ _ _).mp h
    exact ⟨members, entries, hdocument, hentries, hne⟩
  · rintro ⟨members, entries, hdocument, hentries, hne⟩
    exact ⟨_, (read_eq_ok_iff _ _ _).mpr ⟨members, entries, hdocument, hentries, hne, rfl⟩⟩
  · intro c h
    obtain ⟨members, entries, rfl, hentries, -, -⟩ := (read_eq_ok_iff _ _ _).mp h
    exact ⟨members, entries, rfl, hentries, accounts_of_read h hentries⟩

/-- A document with a failed and a valid instance, a useful and a useless log entry, and a member
that means nothing. -/
theorem read_accounts_mixed_document :
    let entry := Value.object [("url", .string "http://[::1]:8080")]
    let logs := Value.array [.null, .object [("path", .string "/log"), ("type", .string "file")]]
    let members : Dict Value :=
      [("instances", .array [.null, entry]), ("logs", logs), ("other", .null)]
    ∃ c, read Schema.builtin (.object members) = .ok c ∧
      Accounts Schema.builtin members [.null, entry] c ∧
      c.validInstances.map Prod.fst = [1] ∧ c.failedInstances.map Prod.fst = [0] ∧
      c.logs.length = 1 ∧ (c.reportsAt (.instance 0)).length = 1 ∧
      (c.reportsAt (.logSource 0)).length = 1 ∧ (c.reportsAt .document).length = 1 := by
  intro entry logs members
  have h : read Schema.builtin (.object members) = .ok _ := rfl
  obtain ⟨_, _, ⟨⟩, hentries, haccounts⟩ :=
    (read_accounts Schema.builtin (.object members)).2.2 _ h
  cases hentries
  exact ⟨_, h, haccounts, rfl, rfl, rfl, rfl, rfl, rfl⟩

end Configuration

end ClusterMonitor

import ClusterMonitor.Proofs.Config.Reading
import ClusterMonitor.Proofs.Options.Contract
import Mathlib.Data.List.Basic

/-!
# Failures stay where they belong

A document has parts: the shared section, each instance, the log sources, and the document as a
whole. Every reader reports on its own part and on no other, so the reports on one part can be read
off that part alone, whatever stands in the others.

* `ErrorScope.part` — the part that a scope lies in.
* `Diagnostic.AllIn`, `Diagnostic.AllOf` — what scopes some reports have, and that they concern one
  part only; one lemma of these forms for each reader.
* `Configuration.reportsOn_instance`, `reportsOn_initConfig`, `reportsOn_logs` — the reports on a
  part of a document that is read.
* `Configuration.read_isolated` — two documents that agree in one member or entry agree in what
  becomes of it, and in the reports on it.
-/

namespace ClusterMonitor

/-- The parts of a document that are read each on its own. -/
inductive DocumentPart where
  | document
  | initConfig
  | «instance» (index : Nat)
  | logs
deriving DecidableEq, Repr

/-- The part that a scope lies in. -/
def ErrorScope.part : ErrorScope → DocumentPart
  | .document => .document
  | .initConfig => .initConfig
  | .instance index => .instance index
  | .key none _ => .initConfig
  | .key (some index) _ => .instance index
  | .subtree index _ _ => .instance index
  | .logSource _ => .logs

/-- A scope names an instance just if it lies in the part of that instance. -/
theorem ErrorScope.instance?_eq_some_iff (scope : ErrorScope) (index : Nat) :
    scope.instance? = some index ↔ scope.part = .instance index := by
  rcases scope with _ | _ | i | ⟨_ | i, _⟩ | ⟨i, _, _⟩ | i <;> simp [ErrorScope.instance?, part]

namespace Diagnostic

/-- The reports on one part of a document, in order. -/
def on (part : DocumentPart) (reports : List Diagnostic) : List Diagnostic :=
  reports.filter fun d => d.scope.part = part

/-- The scopes of all reports have a property. -/
def AllIn (P : ErrorScope → Prop) (reports : List Diagnostic) : Prop := ∀ d ∈ reports, P d.scope

section AllIn

variable {P Q : ErrorScope → Prop} {d : Diagnostic} {xs ys : List Diagnostic}

@[simp] theorem allIn_nil (P : ErrorScope → Prop) : AllIn P [] := by
  simp [AllIn]

@[simp] theorem allIn_cons : AllIn P (d :: xs) ↔ P d.scope ∧ AllIn P xs := by
  simp [AllIn]

@[simp] theorem allIn_append : AllIn P (xs ++ ys) ↔ AllIn P xs ∧ AllIn P ys := by
  simp [AllIn, or_imp, forall_and]

theorem AllIn.mono (h : AllIn P xs) (hPQ : ∀ scope, P scope → Q scope) : AllIn Q xs :=
  fun d hd => hPQ d.scope (h d hd)

end AllIn

/-- All reports concern this part. -/
def AllOf (part : DocumentPart) (reports : List Diagnostic) : Prop :=
  ∀ d ∈ reports, d.scope.part = part

@[simp] theorem allOf_nil (part : DocumentPart) : AllOf part [] := by
  simp [AllOf]

@[simp] theorem allOf_cons {part : DocumentPart} {d : Diagnostic} {reports : List Diagnostic} :
    AllOf part (d :: reports) ↔ d.scope.part = part ∧ AllOf part reports := by
  simp [AllOf]

@[simp] theorem allOf_append {part : DocumentPart} {xs ys : List Diagnostic} :
    AllOf part (xs ++ ys) ↔ AllOf part xs ∧ AllOf part ys := by
  simp [AllOf, or_imp, forall_and]

/-- The reports on a part can be picked out of two lists one after the other. -/
@[simp] theorem on_append (part : DocumentPart) (xs ys : List Diagnostic) :
    on part (xs ++ ys) = on part xs ++ on part ys := by
  simp [on]

/-- Of reports that all concern a part, none is left out. -/
theorem on_self {part : DocumentPart} {reports : List Diagnostic} (h : AllOf part reports) :
    on part reports = reports := by
  rw [on, List.filter_eq_self]
  intro d hd
  simp [h d hd]

/-- Of reports that all concern another part, none is picked. -/
theorem on_other {part other : DocumentPart} {reports : List Diagnostic}
    (h : AllOf other reports) (hne : other ≠ part) : on part reports = [] := by
  rw [on, List.filter_eq_nil_iff]
  intro d hd
  simp [h d hd, hne]

end Diagnostic

open Diagnostic

/-! ## Checked options -/

namespace Checker

/-- The part of a document that is checked. -/
def Place.part : Place → DocumentPart
  | .initConfig => .initConfig
  | .instance index => .instance index

/-- The scope of an option lies in the part of the section that the option is checked in. -/
@[simp] theorem Place.part_key (p : Place) (option : String) : (p.key option).part = p.part := by
  cases p <;> rfl

/-- The scope of an option of this place. -/
def Place.IsOption (p : Place) (scope : ErrorScope) : Prop := ∃ option, scope = p.key option

theorem Place.isOption_key (p : Place) (option : String) : p.IsOption (p.key option) :=
  ⟨option, rfl⟩

/-- The scope of an option lies in the part of its place. -/
theorem Place.IsOption.part {p : Place} {scope : ErrorScope} (h : p.IsOption scope) :
    scope.part = p.part := by
  obtain ⟨option, rfl⟩ := h
  exact p.part_key option

/-- A warning about a deprecated option is about an option of the place. -/
theorem deprecation_isOption (p : Place) (o : OptionSpec) : AllIn p.IsOption (deprecation p o) := by
  unfold deprecation
  split
  · exact allIn_cons.mpr ⟨p.isOption_key o.name, allIn_nil _⟩
  · exact allIn_nil _

/-- What is said of an option that failed is said of an option of the place. -/
theorem recover_isOption (p : Place) (o : OptionSpec) (e : ConfigError) :
    AllIn p.IsOption (recover p o e).2 := by
  unfold recover
  split
  · exact allIn_cons.mpr ⟨p.isOption_key o.name, allIn_nil _⟩
  · cases p with
    | initConfig => exact allIn_cons.mpr ⟨Place.isOption_key _ o.name, allIn_nil _⟩
    | «instance» index => exact allIn_nil _

/-- Checking an option reports on options of the place only. -/
theorem checkOption_isOption (p : Place) (supplied : Dict Value) (o : OptionSpec) :
    AllIn p.IsOption (checkOption p supplied o).2 := by
  unfold checkOption
  split
  · split <;> simp
  · split
    · exact deprecation_isOption p o
    · simp [deprecation_isOption, recover_isOption]

theorem checkOptions_isOption (p : Place) (supplied : Dict Value) (found : Options)
    (options : List OptionSpec) : AllIn p.IsOption (checkOptions p supplied found options).2 := by
  intro d hd
  obtain ⟨o, -, ho⟩ := exists_of_mem_checkOptions hd
  exact checkOption_isOption p supplied o d ho

/-- Unknown keys are reported under their own names, as options of the place. -/
theorem unknownKeys_isOption (c : Checker) (supplied : Dict Value) :
    AllIn c.place.IsOption (c.unknownKeys supplied) := by
  intro d hd
  obtain ⟨key, -, rfl⟩ := List.mem_map.mp hd
  exact c.place.isOption_key key

/-- All reports of a check are about options of the place. -/
theorem check_isOption (c : Checker) (supplied : Dict Value) :
    AllIn c.place.IsOption (c.check supplied).2 := by
  have hoptions := checkOptions_isOption c.place supplied [] c.options
  unfold check
  split
  · rename_i hcheck
    simpa [hcheck] using hoptions
  · rename_i hcheck
    rw [hcheck] at hoptions
    exact allIn_append.mpr ⟨hoptions, unknownKeys_isOption c supplied⟩

/-- A check reports on the part that is checked and on no other. -/
theorem check_allOf (c : Checker) (supplied : Dict Value) :
    AllOf c.place.part (c.check supplied).2 :=
  (check_isOption c supplied).mono fun _ => Place.IsOption.part

end Checker

/-! ## Whitelists -/

namespace Whitelist

/-- The scope of a service or a component in the whitelist of an instance. -/
def IsSubtree (index : Nat) (scope : ErrorScope) : Prop :=
  ∃ service component, scope = .subtree index service component

/-- The report of a fault in a whitelist names the service, and the component if there is one. -/
theorem report_isSubtree (index : Nat) (service : String) (component : Option String)
    (fault : WhitelistFault) : IsSubtree index (report index service component fault).scope :=
  ⟨service, component, rfl⟩

/-- Reading the components of a service reports on the whitelist of the instance only. -/
theorem readComponents_isSubtree (index : Nat) (service : String) (members : Dict Value) :
    AllIn (IsSubtree index) (readComponents index service members).2 := by
  induction members with
  | nil => simp [readComponents]
  | cons member rest ih =>
    obtain ⟨component, v⟩ := member
    cases h : headersOf v with
    | ok headers => simpa [readComponents, h] using ih
    | error fault =>
      simp only [readComponents, h]
      exact allIn_cons.mpr ⟨report_isSubtree index service _ fault, ih⟩

theorem readService_isSubtree (index : Nat) (service : String) (v : Value) :
    AllIn (IsSubtree index) (readService index service v).2 := by
  unfold readService
  split
  · exact readComponents_isSubtree index service _
  · simp
  · exact allIn_cons.mpr ⟨report_isSubtree index service _ _, allIn_nil _⟩

theorem read_isSubtree (index : Nat) (services : Dict Value) :
    AllIn (IsSubtree index) (read index services).2 := by
  induction services with
  | nil => simp [read]
  | cons member rest ih =>
    obtain ⟨service, v⟩ := member
    have hfirst := readService_isSubtree index service v
    simp only [read]
    split <;> exact allIn_append.mpr ⟨hfirst, ih⟩

end Whitelist

theorem ServiceSelection.read_isSubtree (index : Nat) (v : Option Value) :
    AllIn (Whitelist.IsSubtree index) (ServiceSelection.read index v).2 := by
  unfold ServiceSelection.read
  split
  · exact Whitelist.read_isSubtree index _
  · simp

/-! ## The members of a document -/

namespace Instance

/-- The scope of something inside an instance: an option of it, or a part of its whitelist. -/
def IsInside (index : Nat) (scope : ErrorScope) : Prop :=
  (Checker.Place.instance index).IsOption scope ∨ Whitelist.IsSubtree index scope

/-- What lies inside an instance lies in the part of the instance. -/
theorem IsInside.part {index : Nat} {scope : ErrorScope} (h : IsInside index scope) :
    scope.part = .instance index := by
  rcases h with h | ⟨service, component, rfl⟩
  · exact h.part
  · rfl

/-- Making an instance of checked options reports on its whitelist only. -/
theorem ofOptions_isSubtree (o : Options) (index : Nat) :
    AllIn (Whitelist.IsSubtree index) (ofOptions o index).2 := by
  unfold ofOptions
  split
  · simp
  · split
    · simp
    · simp
    · exact ServiceSelection.read_isSubtree index _

/-- Reading an instance reports on what is inside it; that it failed is for the document to say. -/
theorem read_isInside (s : Schema) (index : Nat) (v : Value) :
    AllIn (IsInside index) (read s index v).2 := by
  unfold read
  split
  · rename_i supplied
    have hcheck : AllIn (IsInside index) ((Checker.ofInstance s index).check supplied).2 :=
      (Checker.check_isOption (Checker.ofInstance s index) supplied).mono fun _ => Or.inl
    split
    · rename_i h
      rw [h] at hcheck
      exact hcheck
    · rename_i options reports h
      rw [h] at hcheck
      have hmade : AllIn (IsInside index) (ofOptions options index).2 :=
        (ofOptions_isSubtree options index).mono fun _ => Or.inr
      exact allIn_append.mpr ⟨hcheck, hmade⟩
  · simp

/-- Reading an entry reports on its instance and on no other part. -/
theorem read_allOf (s : Schema) (index : Nat) (v : Value) :
    AllOf (.instance index) (read s index v).2 :=
  (read_isInside s index v).mono fun _ => IsInside.part

end Instance

/-- The shape of the shared section is reported on the section itself. -/
theorem InitSection.supplied_allOf (v : Option Value) :
    AllOf .initConfig (InitSection.supplied v).2 := by
  unfold InitSection.supplied
  split
  · simp
  · simp
  · simp
  · exact allOf_cons.mpr ⟨rfl, allOf_nil _⟩

/-- Reading the shared section reports on it and on no other part. -/
theorem InitSection.read_allOf (s : Schema) (v : Option Value) :
    AllOf .initConfig (InitSection.read s v).2 := by
  have hsupplied := InitSection.supplied_allOf v
  have hcheck := Checker.check_allOf (Checker.ofInitConfig s) (InitSection.supplied v).1
  simp only [InitSection.read]
  split
  · rename_i h
    rw [h] at hcheck
    exact allOf_append.mpr ⟨hsupplied, hcheck⟩
  · rename_i h
    rw [h] at hcheck
    exact allOf_append.mpr ⟨allOf_append.mpr ⟨hsupplied, hcheck⟩,
      allOf_cons.mpr ⟨rfl, allOf_nil _⟩⟩

namespace Configuration

theorem readInstance_allOf (s : Schema) (index : Nat) (entry : Value) :
    AllOf (.instance index) (readInstance s index entry).2 := by
  have hread := Instance.read_allOf s index entry
  unfold readInstance
  split
  · rename_i h
    simpa [h] using hread
  · rename_i h
    rw [h] at hread
    exact allOf_append.mpr ⟨hread, allOf_cons.mpr ⟨rfl, allOf_nil _⟩⟩

/-- The reports on entries counted from `start` concern instances from `start` on. -/
theorem readInstances_part (s : Schema) (start : Nat) (entries : List Value) (d : Diagnostic)
    (hd : d ∈ (readInstances s start entries).2) :
    ∃ index, start ≤ index ∧ d.scope.part = .instance index := by
  induction entries generalizing start with
  | nil => simp [readInstances] at hd
  | cons entry rest ih =>
    rcases List.mem_append.mp hd with hd | hd
    · exact ⟨start, Nat.le_refl start, readInstance_allOf s start entry d hd⟩
    · obtain ⟨index, hle, hpart⟩ := ih (start + 1) hd
      exact ⟨index, by omega, hpart⟩

/-- Of the reports on entries, those on one instance are what reading its entry gives. -/
theorem on_readInstances (s : Schema) (start place : Nat) (entries : List Value) :
    on (.instance (start + place)) (readInstances s start entries).2 =
      (entries[place]?.map fun entry => (readInstance s (start + place) entry).2).getD [] := by
  induction entries generalizing start place with
  | nil => rfl
  | cons entry rest ih =>
    have hfirst := readInstance_allOf s start entry
    simp only [readInstances, on_append]
    cases place with
    | zero =>
      -- the reports that follow are on instances further on
      have hlater : on (.instance start) (readInstances s (start + 1) rest).2 = [] := by
        rw [on, List.filter_eq_nil_iff]
        intro d hd
        obtain ⟨index, hle, hpart⟩ := readInstances_part s (start + 1) rest d hd
        have hne : index ≠ start := by omega
        simp [hpart, hne]
      simp [on_self hfirst, hlater]
    | succ place =>
      -- the first entry reports on its own instance only
      have hnext : start + 1 + place = start + (place + 1) := by omega
      have hne : DocumentPart.instance start ≠ .instance (start + (place + 1)) := by
        simp
      have hrest := ih (start + 1) place
      rw [hnext] at hrest
      simp [on_other hfirst hne, hrest]

/-- Reading log sources reports on the log sources. -/
theorem readLogEntries_allOf (index : Nat) (entries : List Value) :
    AllOf .logs (readLogEntries index entries).2 := by
  induction entries generalizing index with
  | nil => simp [readLogEntries]
  | cons entry rest ih =>
    cases h : readLog entry with
    | ok source => simpa [readLogEntries, h] using ih (index + 1)
    | error reason =>
      simp only [readLogEntries, h]
      exact allOf_cons.mpr ⟨rfl, ih (index + 1)⟩

/-- Reading `logs` reports on the log sources or on the document, never on the shared section or an
instance. -/
theorem readLogs_part (v : Option Value) :
    AllOf .logs (readLogs v).2 ∨ AllOf .document (readLogs v).2 := by
  unfold readLogs
  split
  · exact Or.inl (allOf_nil _)
  · exact Or.inl (allOf_nil _)
  · exact Or.inl (readLogEntries_allOf 0 _)
  · -- `logs` itself is no list, which is a fault of the document
    exact Or.inr (allOf_cons.mpr ⟨rfl, allOf_nil _⟩)

/-- Reading the log sources says nothing of any other part, apart from the document as a whole. -/
theorem on_readLogs {part : DocumentPart} (hlogs : part ≠ .logs) (hdoc : part ≠ .document)
    (v : Option Value) : on part (readLogs v).2 = [] := by
  rcases readLogs_part v with h | h
  · exact on_other h hlogs.symm
  · exact on_other h hdoc.symm

/-- Unknown members are reported on the document as a whole. -/
theorem unknownMembers_allOf (members : Dict Value) : AllOf .document (unknownMembers members) := by
  intro d hd
  obtain ⟨key, -, rfl⟩ := List.mem_map.mp hd
  rfl

/-! ## The reports on one part of a document -/

/-- The reports on one part of the document. -/
def reportsOn (c : Configuration) (part : DocumentPart) : List Diagnostic := on part c.diagnostics

/-- The reports that name an instance are those on its part. -/
theorem filter_instance?_eq_reportsOn (c : Configuration) (index : Nat) :
    (c.diagnostics.filter fun d => d.scope.instance? = some index) =
      c.reportsOn (.instance index) := by
  simp only [reportsOn, on, ErrorScope.instance?_eq_some_iff]

/-- Reading the entries says nothing of any part that is no instance. -/
theorem on_readInstances_other {part : DocumentPart} (hpart : ∀ index, part ≠ .instance index)
    (s : Schema) (entries : List Value) : on part (readInstances s 0 entries).2 = [] := by
  rw [on, List.filter_eq_nil_iff]
  intro d hd
  obtain ⟨index, -, hscope⟩ := readInstances_part s 0 entries d hd
  simp [hscope, (hpart index).symm]

/-- The reports on an instance are those of reading its entry, whatever else the document has. -/
theorem reportsOn_instance {s : Schema} {document : Value} {c : Configuration}
    (h : read s document = .ok c) (index : Nat) :
    c.reportsOn (.instance index) =
      ((entryAt? document index).map fun entry => (readInstance s index entry).2).getD [] := by
  obtain ⟨members, entries, rfl, hget, -, rfl⟩ := (read_eq_ok_iff _ _ _).mp h
  have hentries := on_readInstances s 0 index entries
  rw [Nat.zero_add] at hentries
  rw [entryAt?_object hget]
  simp [reportsOn, ofMembers, hentries, on_other (InitSection.read_allOf s _),
    on_other (unknownMembers_allOf members), on_readLogs]

/-- The shared section and the reports on it are those of reading it alone. -/
theorem reportsOn_initConfig {s : Schema} {document : Value} {c : Configuration}
    (h : read s document = .ok c) :
    c.init = (InitSection.read s (document.get? "init_config")).1 ∧
      c.reportsOn .initConfig = (InitSection.read s (document.get? "init_config")).2 := by
  obtain ⟨members, entries, rfl, -, -, rfl⟩ := (read_eq_ok_iff _ _ _).mp h
  refine ⟨rfl, ?_⟩
  simp [reportsOn, ofMembers, on_self (InitSection.read_allOf s _), on_readInstances_other,
    on_other (unknownMembers_allOf members), on_readLogs, Value.get?]

/-- The log sources and the reports on them are those of reading the list alone. -/
theorem reportsOn_logs {s : Schema} {document : Value} {c : Configuration}
    (h : read s document = .ok c) :
    c.logs = (readLogs (document.get? "logs")).1 ∧
      c.reportsOn .logs = on .logs (readLogs (document.get? "logs")).2 := by
  obtain ⟨members, entries, rfl, -, -, rfl⟩ := (read_eq_ok_iff _ _ _).mp h
  refine ⟨rfl, ?_⟩
  simp [reportsOn, ofMembers, on_other (InitSection.read_allOf s _), on_readInstances_other,
    on_other (unknownMembers_allOf members), Value.get?]

/-- Failures never cross: what becomes of an entry of `instances` depends on this entry and its
place alone, with the reports on it, and the shared section and the log sources depend on their own
members alone. -/
theorem read_isolated (s : Schema) (d d' : Value) (c c' : Configuration)
    (h : read s d = .ok c) (h' : read s d' = .ok c') :
    (∀ index, entryAt? d index = entryAt? d' index →
      c.instance? index = c'.instance? index ∧
      (c.diagnostics.filter fun r => r.scope.instance? = some index) =
        c'.diagnostics.filter fun r => r.scope.instance? = some index) ∧
    (d.get? "init_config" = d'.get? "init_config" →
      c.init = c'.init ∧ c.reportsOn .initConfig = c'.reportsOn .initConfig) ∧
    (d.get? "logs" = d'.get? "logs" →
      c.logs = c'.logs ∧ c.reportsOn .logs = c'.reportsOn .logs) := by
  refine ⟨?_, ?_, ?_⟩
  · intro index hentry
    constructor
    · rw [instance?_read h, instance?_read h', hentry]
    · rw [filter_instance?_eq_reportsOn, filter_instance?_eq_reportsOn, reportsOn_instance h,
        reportsOn_instance h', hentry]
  · intro hinit
    obtain ⟨hsection, hreports⟩ := reportsOn_initConfig h
    obtain ⟨hsection', hreports'⟩ := reportsOn_initConfig h'
    rw [hsection, hsection', hreports, hreports', hinit]
    exact ⟨rfl, rfl⟩
  · intro hlogs
    obtain ⟨hsources, hreports⟩ := reportsOn_logs h
    obtain ⟨hsources', hreports'⟩ := reportsOn_logs h'
    rw [hsources, hsources', hreports, hreports', hlogs]
    exact ⟨rfl, rfl⟩

/-- Two documents with the same second instance, which fails for want of a password, and the same
log sources, but different first instances and shared sections. -/
theorem read_isolated_second_entry :
    let entry := Value.object [("url", .string "http://one:8080"), ("username", .string "admin")]
    let logs := Value.array [.object [("path", .string "/log"), ("type", .string "file")], .null]
    let d := Value.object
      [("init_config", .array []), ("instances", .array [.null, entry]), ("logs", logs)]
    let d' := Value.object
      [("instances", .array [.object [("url", .int 1)], entry, entry]), ("logs", logs),
        ("other", .null)]
    ∃ c c', read Schema.builtin d = .ok c ∧ read Schema.builtin d' = .ok c' ∧
      entryAt? d 1 = some entry ∧ entryAt? d' 1 = some entry ∧ c.instance? 1 = c'.instance? 1 ∧
      ((c.diagnostics.filter fun r => r.scope.instance? = some 1) =
        c'.diagnostics.filter fun r => r.scope.instance? = some 1) ∧
      c.logs = c'.logs ∧ c.reportsOn .logs = c'.reportsOn .logs := by
  intro entry logs d d'
  have h : read Schema.builtin d = .ok _ := rfl
  have h' : read Schema.builtin d' = .ok _ := rfl
  have hentry : entryAt? d 1 = some entry := rfl
  have hentry' : entryAt? d' 1 = some entry := rfl
  obtain ⟨hinstances, -, hlogs⟩ := read_isolated Schema.builtin d d' _ _ h h'
  obtain ⟨hsame, hreports⟩ := hinstances 1 (hentry.trans hentry'.symm)
  obtain ⟨hsources, hlogReports⟩ := hlogs rfl
  exact ⟨_, _, h, h', hentry, hentry', hsame, hreports, hsources, hlogReports⟩

end Configuration

end ClusterMonitor

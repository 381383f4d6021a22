import ClusterMonitor.Proofs.Config.Parts
import ClusterMonitor.Proofs.Config.Reading
import ClusterMonitor.Proofs.Whitelist.Reading

/-!
# What is collected is what the document says

From the entry of an instance it can be told which metrics are collected and which components are
checked, without looking at what is made of the entry on the way: its options, its whitelist, its
selection and its plan.

* `MetricHeader.firstSegment` — the segment of a path that headers are compared with.
* `CollectionPlan.includes_component_iff`, `CollectionPlan.checkStatus_component_iff` — a plan, in
  terms of its selection.
* `Instance.services_of_read` — the selection, in terms of the entry.
* `Configuration.collected_iff` — a plan, in terms of the entry.
-/

namespace ClusterMonitor

/-! ## Paths -/

namespace MetricHeader

/-- The first segment of a path. Segments are what stands between slashes and dots and is not empty,
and one leading `metrics` is skipped. -/
def firstSegment (path : String) : Option String :=
  let pieces := path.toList.splitOnP fun c => c = '/' ∨ c = '.'
  let names := (pieces.filter (· ≠ [])).map String.ofList
  if names.head? = some "metrics" then names.tail.head? else names.head?

/-- The segments are the pieces between separators, the empty ones left out. -/
theorem segmentsFrom_eq (current cs : List Char) :
    segmentsFrom current cs = (cs.splitOnPPrepend isSeparator current).filter (· ≠ []) := by
  induction cs generalizing current with
  | nil => cases current <;> simp [segmentsFrom]
  | cons c rest ih =>
    rw [List.splitOnPPrepend_cons_eq_if]
    by_cases hc : isSeparator c = true
    · -- the segment under way ends here, and a new one begins
      have hnext : segmentsFrom [] rest = (rest.splitOnP isSeparator).filter (· ≠ []) := ih []
      cases current <;> simp [segmentsFrom, hc, hnext]
    · simpa [segmentsFrom, hc] using ih (c :: current)

theorem segments_eq (path : String) :
    segments path =
      ((path.toList.splitOnP fun c => c = '/' ∨ c = '.').filter (· ≠ [])).map String.ofList := by
  have hsep : isSeparator = fun c => decide (c = '/' ∨ c = '.') := by
    funext c
    rw [Bool.eq_iff_iff]
    simp [isSeparator]
  rw [segments, segmentsFrom_eq, hsep]
  rfl

/-- The group of a path is its first segment. -/
theorem group?_eq_firstSegment (path : String) : group? path = firstSegment path := by
  rw [group?, firstSegment, ← segments_eq]
  split
  · rename_i rest hnames
    simp [hnames]
  · rename_i hnames
    cases hsegments : segments path with
    | nil => rfl
    | cons name rest =>
      have hname : name ≠ "metrics" := by
        intro heq
        exact hnames rest (by rw [hsegments, heq])
      simp [hname]

/-- A header matches the paths that it is the first segment of. -/
theorem matches_iff (header : MetricHeader) (path : String) :
    header.matches path = true ↔ firstSegment path = some header := by
  simp [«matches», group?_eq_firstSegment]

end MetricHeader

/-! ## Plans -/

namespace CollectionPlan

variable (p : CollectionPlan) (service name path : String)

/-- The metrics that a selection makes eligible for a component, if the component is eligible. -/
def metrics? (s : ServiceSelection) (service name : String) : Option MetricSelection :=
  match s with
  | .unrestricted => some .all
  | .listed w => (w.headers? service name).map metricsOf

/-- With both toggles off nothing is looked up, and looking it up would come to the same. -/
theorem component_eq :
    p.component service name = ((metrics? p.selection service name).map p.eligible).getD .skip := by
  by_cases hdisabled : p.isDisabled = true
  · have hoff : p.collectMetrics = false ∧ p.collectStatus = false := by
      simpa [isDisabled] using hdisabled
    have heligible : ∀ metrics, p.eligible metrics = .skip := by
      simp [eligible, ComponentPlan.skip, hoff]
    cases metrics? p.selection service name <;> simp [component, hdisabled, heligible]
  · unfold component metrics?
    cases p.selection with
    | unrestricted => simp [hdisabled]
    | listed w => cases hheaders : w.headers? service name <;> simp [hdisabled, hheaders]

/-- Listed headers include a path if one of them is its first segment. -/
theorem includes_metricsOf_iff (headers : List MetricHeader) :
    (metricsOf headers).includes path = true ↔
      ∃ header ∈ headers, MetricHeader.firstSegment path = some header := by
  cases headers <;> simp [metricsOf, MetricSelection.includes, MetricHeader.matches_iff]

/-- A component collects a path if metrics are collected and those selected for it include the
path. -/
theorem includes_component_iff :
    (p.component service name).metrics.includes path = true ↔
      p.collectMetrics = true ∧
        ∃ metrics, metrics? p.selection service name = some metrics ∧
          metrics.includes path = true := by
  rw [component_eq]
  cases metrics? p.selection service name with
  | none => simp [ComponentPlan.skip, MetricSelection.includes]
  | some metrics =>
    cases hmetrics : p.collectMetrics <;> simp [eligible, hmetrics, MetricSelection.includes]

/-- The status of a component is checked if statuses are collected and the component is selected. -/
theorem checkStatus_component_iff :
    (p.component service name).checkStatus = true ↔
      p.collectStatus = true ∧ ∃ metrics, metrics? p.selection service name = some metrics := by
  rw [component_eq]
  cases metrics? p.selection service name <;> simp [eligible, ComponentPlan.skip]

end CollectionPlan

/-! ## The selection of an instance -/

namespace Instance

open Schema (builtin)

/-- The entry says nothing of services. -/
def IsUnrestricted (entry : Value) : Prop := ∀ v, entry.get? "services" = some v → v = .null

/-- The entry lists the component with these headers. -/
def IsListed (entry : Value) (service component : String) (headers : List MetricHeader) : Prop :=
  ∃ services, entry.get? "services" = some services ∧
    Whitelist.IsListed services service component headers

/-- The selection is taken from the entry as it stands. Other than a mapping would have failed the
instance, and there is no default. -/
theorem services_of_read {index : Nat} {entry : Value} {i : Instance}
    (h : (read builtin index entry).1 = .ok i) :
    (IsUnrestricted entry ∧ i.services = .unrestricted) ∨
      ∃ services, entry.get? "services" = some (.object services) ∧
        i.services = .listed (Whitelist.read index services).1 := by
  obtain ⟨supplied, options, rfl, hcheck, hmade⟩ := read_eq_ok h
  obtain ⟨o, ho, hname, htype, hdefault⟩ := Schema.exists_services
  have hc := Checker.consistent_ofPlace Schema.check_builtin (.instance index)
  obtain ⟨hget, hadmits⟩ := Checker.get?_check_of_no_default hc hcheck (by simp) ho hdefault
  rw [(ofOptions_eq_ok hmade).1, ← hname, hget, IsUnrestricted]
  simp only [Value.get?, ← hname]
  cases hgiven : Value.given? supplied o.name with
  | none =>
    have hnone := Checker.given?_eq_none_iff.mp hgiven
    refine Or.inl ⟨fun v hv => ?_, rfl⟩
    by_contra hnull
    exact hnone v ⟨hv, hnull⟩
  | some v =>
    have hgives := (Checker.given?_eq_some_iff v).mp hgiven
    have haccepts := (hadmits v hgives).accepts
    rw [htype] at haccepts
    cases v with
    | object services => exact Or.inr ⟨services, hgives.1, rfl⟩
    | _ => cases haccepts

/-- The metrics of a component that are eligible, in terms of the entry. -/
theorem metrics?_of_read {index : Nat} {entry : Value} (hentry : entry.WellFormed) {i : Instance}
    (h : (read builtin index entry).1 = .ok i) (service component : String)
    (metrics : MetricSelection) :
    CollectionPlan.metrics? i.services service component = some metrics ↔
      (IsUnrestricted entry ∧ metrics = .all) ∨
        ∃ headers, IsListed entry service component headers ∧
          metrics = CollectionPlan.metricsOf headers := by
  rcases services_of_read h with ⟨hunrestricted, hservices⟩ | ⟨services, hget, hservices⟩
  · -- an entry that says nothing of services lists no component
    have hnone : ∀ headers, ¬ IsListed entry service component headers := by
      rintro headers ⟨services, hget, hlisted⟩
      obtain ⟨components, hcomponents, -⟩ := hlisted
      rw [hunrestricted services hget] at hcomponents
      cases hcomponents
    simp [CollectionPlan.metrics?, hservices, hunrestricted, hnone, eq_comm]
  · have hmapping : ¬ IsUnrestricted entry := by
      intro hunrestricted
      cases hunrestricted _ hget
    have hlisted : ∀ headers, IsListed entry service component headers ↔
        (Whitelist.read index services).1.headers? service component = some headers := by
      intro headers
      rw [Whitelist.headers?_read_eq_some_iff (hentry.get? hget)]
      simp [IsListed, hget]
    simp only [CollectionPlan.metrics?, hservices, Option.map_eq_some_iff, hmapping, hlisted,
      false_and, false_or]
    exact exists_congr fun headers => and_congr_right fun _ => eq_comm

end Instance

namespace Configuration

open Schema (builtin)

/-- The entries of a well-formed document are well-formed. -/
theorem wellFormed_entryAt? {document entry : Value} (h : document.WellFormed) {index : Nat}
    (hentry : entryAt? document index = some entry) : entry.WellFormed := by
  obtain ⟨entries, hentries, hindex⟩ := Option.bind_eq_some_iff.mp hentry
  obtain ⟨v, hv, harray⟩ := Option.bind_eq_some_iff.mp hentries
  cases v with
  | array items =>
    cases harray
    exact Value.wellFormed_array.mp (h.get? hv) entry (List.mem_of_getElem? hindex)
  | _ => cases harray

/-- What is collected from a valid instance is what its entry says: everything that the toggles
allow, if there are no services in it, and else what is listed there. -/
theorem collected_iff (document : Value) (hdocument : document.WellFormed) (c : Configuration)
    (h : read builtin document = .ok c) (index : Nat) (i : Instance)
    (hi : (index, i) ∈ c.validInstances) :
    ∃ entry, entryAt? document index = some entry ∧ ∀ service component path,
      (((c.planFor i).component service component).metrics.includes path = true ↔
        c.init.collectMetrics = true ∧
          (Instance.IsUnrestricted entry ∨
            ∃ headers, Instance.IsListed entry service component headers ∧
              ∃ header ∈ headers, MetricHeader.firstSegment path = some header)) ∧
      (((c.planFor i).component service component).checkStatus = true ↔
        c.init.collectStatus = true ∧
          (Instance.IsUnrestricted entry ∨
            ∃ headers, Instance.IsListed entry service component headers)) := by
  obtain ⟨entry, hentry, hread⟩ := entry_of_mem_validInstances h hi
  have hwell := wellFormed_entryAt? hdocument hentry
  refine ⟨entry, hentry, fun service component path => ?_⟩
  rw [CollectionPlan.includes_component_iff, CollectionPlan.checkStatus_component_iff]
  -- both answers are about the metrics that are eligible, and these are told by the entry
  have hmetrics := Instance.metrics?_of_read hwell hread service component
  constructor
  · refine and_congr_right fun _ => ?_
    constructor
    · rintro ⟨metrics, hsome, hincludes⟩
      rcases (hmetrics metrics).mp hsome with ⟨hunrestricted, -⟩ | ⟨headers, hlisted, rfl⟩
      · exact Or.inl hunrestricted
      · exact Or.inr ⟨headers, hlisted, (CollectionPlan.includes_metricsOf_iff _ _).mp hincludes⟩
    · rintro (hunrestricted | ⟨headers, hlisted, hpath⟩)
      · exact ⟨.all, (hmetrics .all).mpr (Or.inl ⟨hunrestricted, rfl⟩), rfl⟩
      · exact ⟨_, (hmetrics _).mpr (Or.inr ⟨headers, hlisted, rfl⟩),
          (CollectionPlan.includes_metricsOf_iff _ _).mpr hpath⟩
  · refine and_congr_right fun _ => ?_
    constructor
    · rintro ⟨metrics, hsome⟩
      rcases (hmetrics metrics).mp hsome with ⟨hunrestricted, -⟩ | ⟨headers, hlisted, -⟩
      · exact Or.inl hunrestricted
      · exact Or.inr ⟨headers, hlisted⟩
    · rintro (hunrestricted | ⟨headers, hlisted⟩)
      · exact ⟨.all, (hmetrics .all).mpr (Or.inl ⟨hunrestricted, rfl⟩)⟩
      · exact ⟨_, (hmetrics _).mpr (Or.inr ⟨headers, hlisted, rfl⟩)⟩

/-- One component is listed with a header. The header of another is blank, so that this component is
not listed and has no metrics collected. -/
theorem collected_iff_blank_header :
    let services := Value.object
      [("HDFS", .object [("DATANODE", .ofStrings [" "]), ("NAMENODE", .ofStrings ["jvm"])])]
    let entry := Value.object [("services", services), ("url", .string "http://[::1]:8080")]
    let document := Value.object [("instances", .array [entry])]
    ∃ c i, document.WellFormed ∧ read builtin document = .ok c ∧ (0, i) ∈ c.validInstances ∧
      ((c.planFor i).component "HDFS" "NAMENODE").metrics.includes "metrics/jvm/heap" = true ∧
      ((c.planFor i).component "HDFS" "DATANODE").metrics.includes "metrics/jvm/heap" = false := by
  intro services entry document
  have hwell : document.WellFormed := by
    simp only [document, entry, services, Value.WellFormed, Value.WellFormedMembers,
      Value.WellFormedItems, Dict.Ordered, Value.ofStrings, List.map]
    decide
  obtain ⟨c, h, i, hi⟩ : ∃ c, read builtin document = .ok c ∧ ∃ i, (0, i) ∈ c.validInstances :=
    ⟨_, rfl, _, List.mem_singleton_self (0, _)⟩
  obtain ⟨e, hentry, hplan⟩ := collected_iff document hwell c h 0 i hi
  cases hentry
  have hinit : c.init.collectMetrics = true := by
    cases h
    rfl
  refine ⟨c, i, hwell, h, hi, ?_, ?_⟩
  · have hheader : ∃ c ∈ "jvm".toList, Unicode.isBlank c = false :=
      (Whitelist.isBlankText_eq_false_iff "jvm").mp (by decide)
    have hlisted : Instance.IsListed entry "HDFS" "NAMENODE" ["jvm"] :=
      ⟨services, rfl, _, rfl, rfl, List.forall_mem_singleton.mpr hheader⟩
    exact (hplan "HDFS" "NAMENODE" "metrics/jvm/heap").1.mpr
      ⟨hinit, Or.inr ⟨["jvm"], hlisted, "jvm", List.mem_cons_self, by decide⟩⟩
  · rw [Bool.eq_false_iff]
    intro hincludes
    obtain ⟨-, hunrestricted | ⟨headers, hlisted, -⟩⟩ :=
      (hplan "HDFS" "DATANODE" "metrics/jvm/heap").1.mp hincludes
    · exact absurd (hunrestricted services rfl) (by simp [services])
    · obtain ⟨_, ⟨⟩, _, ⟨⟩, hheaders, hblank⟩ := hlisted
      have hlist : [Value.string " "] = headers.map .string := by
        injection Option.some.inj hheaders
      obtain ⟨header, rest, rfl, hheader, -⟩ := List.map_eq_cons_iff.mp hlist.symm
      cases hheader
      have hspace := (Whitelist.isBlankText_eq_false_iff " ").mpr (hblank " " List.mem_cons_self)
      exact absurd hspace (by decide)

end Configuration

end ClusterMonitor

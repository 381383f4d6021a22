import ClusterMonitor.Proofs.Plan.Collected

/-!
# Plans of services and of their components

Whoever walks over a cluster asks for the plan of a service first, and then for the plans of the
components that its scope covers. The two plans are made apart from each other. Both are told here by
what the selection makes eligible, and by one toggle for each answer, so that the walk misses nothing
and finds nothing that is not there.

* `ComponentScope.Covers` — a component is among those that a scope makes eligible.
* `CollectionPlan.scope?` — the scope that a selection gives to a service.
* `CollectionPlan.exists_scope?_covers_iff` — eligible components are those of eligible services.
* `CollectionPlan.components_service`, `CollectionPlan.checkStatus_service`,
  `CollectionPlan.metrics_component`, `CollectionPlan.checkStatus_component` — the answers.
* `CollectionPlan.component_agrees_with_service` — the plans of a service and of a component.
-/

namespace ClusterMonitor

/-- The scope makes the component eligible. -/
def ComponentScope.Covers (scope : ComponentScope) (name : String) : Prop :=
  scope = .all ∨ ∃ components, scope = .listed components ∧ name ∈ components

theorem ComponentScope.not_covers_none (name : String) : ¬ ComponentScope.none.Covers name := by
  simp [Covers]

/-- A plan that covers a component is not skipped. -/
theorem ServicePlan.not_skipped_of_covers {p : ServicePlan} {name : String}
    (h : p.components.Covers name) : p.isSkipped = false := by
  have hscope : p.components ≠ .none := by
    intro hnone
    rw [hnone] at h
    exact ComponentScope.not_covers_none name h
  simp [isSkipped, hscope]

namespace CollectionPlan

/-! ## What is eligible -/

/-- The scope that a selection gives to a service, if the service is eligible. -/
def scope? (s : ServiceSelection) (service : String) : Option ComponentScope :=
  match s with
  | .unrestricted => some .all
  | .listed w => (w.components? service).map scopeOf

/-- The scope of some components covers just these. -/
theorem covers_scopeOf_iff (components : Components) (name : String) :
    (scopeOf components).Covers name ↔ name ∈ Dict.keys components := by
  cases components <;> simp [scopeOf, ComponentScope.Covers, Dict.keys]

/-- A component is eligible exactly if its service is, with a scope that covers it. -/
theorem exists_scope?_covers_iff (s : ServiceSelection) (service name : String) :
    (∃ scope, scope? s service = some scope ∧ scope.Covers name) ↔
      ∃ metrics, metrics? s service name = some metrics := by
  cases s with
  | unrestricted => simp [scope?, metrics?, ComponentScope.Covers]
  | listed w =>
    have hheaders : w.headers? service name =
        (w.components? service).bind fun components => Dict.get? components name := rfl
    cases hservice : w.components? service with
    | none => simp [scope?, metrics?, hheaders, hservice]
    | some components =>
      simp [scope?, metrics?, hheaders, hservice, covers_scopeOf_iff, Dict.mem_keys_iff,
        Option.isSome_iff_exists]

variable (p : CollectionPlan) (service name : String)

/-! ## The answers -/

/-- The plan for a service: nothing if the check is disabled, and else what the selection has for
it. -/
theorem service_eq :
    p.service service =
      if p.isDisabled then .skip
      else ((scope? p.selection service).map fun scope => ⟨p.collectStatus, scope⟩).getD .skip := by
  unfold CollectionPlan.service scope?
  cases p.selection with
  | unrestricted => rfl
  | listed w => cases hservice : w.components? service <;> simp [hservice]

/-- The components in it are those of the selection. -/
theorem components_service :
    (p.service service).components =
      if p.isDisabled then .none else (scope? p.selection service).getD .none := by
  rw [service_eq]
  cases scope? p.selection service <;> cases p.isDisabled <;> rfl

/-- The early end for two toggles that are off changes no answer on the status. -/
theorem checkStatus_service :
    (p.service service).checkStatus =
      (p.collectStatus && (scope? p.selection service).isSome) := by
  rw [service_eq]
  cases hdisabled : p.isDisabled with
  | true =>
    have hoff : p.collectStatus = false := by
      simp only [isDisabled, Bool.and_eq_true, Bool.not_eq_true'] at hdisabled
      exact hdisabled.2
    simp [hoff, ServicePlan.skip]
  | false => cases scope? p.selection service <;> simp [ServicePlan.skip]

/-- The metrics of a component are those of the selection, if metrics are collected. -/
theorem metrics_component :
    (p.component service name).metrics =
      if p.collectMetrics then (metrics? p.selection service name).getD .nothing else .nothing := by
  rw [component_eq]
  cases metrics? p.selection service name <;> simp [eligible, ComponentPlan.skip]

/-- The status of a component is checked if it is selected and statuses are collected. -/
theorem checkStatus_component :
    (p.component service name).checkStatus =
      (p.collectStatus && (metrics? p.selection service name).isSome) := by
  rw [component_eq]
  cases metrics? p.selection service name <;> simp [eligible, ComponentPlan.skip]

/-! ## The two plans -/

/-- The scope of a service covers the eligible components, while a toggle is on. -/
theorem covers_service_iff :
    (p.service service).components.Covers name ↔
      p.isDisabled = false ∧ ∃ metrics, metrics? p.selection service name = some metrics := by
  rw [components_service, ← exists_scope?_covers_iff]
  cases p.isDisabled with
  | true => simp [ComponentScope.not_covers_none]
  | false =>
    cases scope? p.selection service with
    | none => simp [ComponentScope.not_covers_none]
    | some scope => simp

/-- A component that the plan for its service does not cover is skipped. -/
theorem component_of_not_covers (h : ¬ (p.service service).components.Covers name) :
    p.component service name = .skip := by
  rw [covers_service_iff, not_and_or, Bool.not_eq_false] at h
  rcases h with hdisabled | hnone
  · simp [component, hdisabled]
  · have hmetrics : metrics? p.selection service name = none :=
      Option.eq_none_iff_forall_ne_some.mpr fun metrics hsome => hnone ⟨metrics, hsome⟩
    rw [component_eq, hmetrics]
    rfl

/-- A component that is not skipped is covered by the plan for its service. -/
theorem covers_of_not_skipped (h : (p.component service name).isSkipped = false) :
    (p.service service).components.Covers name := by
  by_contra hscope
  rw [component_of_not_covers p service name hscope] at h
  cases h

/-- A component whose status is checked is eligible, and then so is its service. -/
theorem checkStatus_service_of_component (h : (p.component service name).checkStatus = true) :
    (p.service service).checkStatus = true := by
  rw [checkStatus_component, Bool.and_eq_true, Option.isSome_iff_exists] at h
  obtain ⟨hcollect, heligible⟩ := h
  obtain ⟨scope, hscope, -⟩ := (exists_scope?_covers_iff p.selection service name).mpr heligible
  rw [checkStatus_service, hcollect, Bool.true_and]
  exact Option.isSome_iff_exists.mpr ⟨scope, hscope⟩

/-- The plan of a component agrees with the plan of its service. If the component is not skipped then
the service is not, and its scope covers the component; if the status of the component is checked
then so is that of the service; and a component that the scope does not cover is skipped. The metrics
go by the one toggle alone and the status by the other. -/
theorem component_agrees_with_service (i : InitSection) (selection : ServiceSelection)
    (service name : String) :
    let ofService := (ofInit i selection).service service
    let ofComponent := (ofInit i selection).component service name
    (ofComponent.isSkipped = false →
      ofService.isSkipped = false ∧ ofService.components.Covers name) ∧
    (ofComponent.checkStatus = true → ofService.checkStatus = true) ∧
    (¬ ofService.components.Covers name → ofComponent.isSkipped = true) ∧
    (∀ j : InitSection, j.collectMetrics = i.collectMetrics →
      ((ofInit j selection).component service name).metrics = ofComponent.metrics) ∧
    ∀ j : InitSection, j.collectStatus = i.collectStatus →
      ((ofInit j selection).service service).checkStatus = ofService.checkStatus ∧
        ((ofInit j selection).component service name).checkStatus = ofComponent.checkStatus := by
  intro ofService ofComponent
  refine ⟨?_, checkStatus_service_of_component _ service name, ?_, ?_, ?_⟩
  · intro hcollected
    have hscope : ofService.components.Covers name :=
      covers_of_not_skipped _ service name hcollected
    exact ⟨ServicePlan.not_skipped_of_covers hscope, hscope⟩
  · -- an early end and an ineligible component give the same plan
    intro hscope
    have hskip : ofComponent = .skip := component_of_not_covers _ service name hscope
    rw [hskip]
    rfl
  · intro j hmetrics
    have htoggle : (ofInit j selection).collectMetrics = (ofInit i selection).collectMetrics :=
      hmetrics
    rw [metrics_component, metrics_component, htoggle]
    rfl
  · intro j hstatus
    rw [checkStatus_service, checkStatus_service, checkStatus_component, checkStatus_component]
    simp only [ofInit, hstatus, and_self]

/-- A component with metrics listed, one of a service without components, and the plans with the
status toggle off and on. -/
theorem component_agrees_with_service_namenode :
    let selection := ServiceSelection.listed
      [("HDFS", [("DATANODE", []), ("NAMENODE", ["jvm"])]), ("YARN", [])]
    let metricsOnly : InitSection := { collectStatus := false }
    let both : InitSection := { collectStatus := true }
    let plan := ofInit metricsOnly selection
    (plan.component "HDFS" "NAMENODE").isSkipped = false ∧
      (plan.service "HDFS").components.Covers "NAMENODE" ∧
      (plan.component "YARN" "NODEMANAGER").isSkipped = true ∧
      ((ofInit both selection).component "HDFS" "NAMENODE").metrics =
        (plan.component "HDFS" "NAMENODE").metrics := by
  intro selection metricsOnly both plan
  obtain ⟨hcovers, -, -, hmetrics, -⟩ :=
    component_agrees_with_service metricsOnly selection "HDFS" "NAMENODE"
  obtain ⟨-, -, hskipped, -, -⟩ :=
    component_agrees_with_service metricsOnly selection "YARN" "NODEMANAGER"
  have hcollected : (plan.component "HDFS" "NAMENODE").isSkipped = false := by decide
  have hyarn : ¬ (plan.service "YARN").components.Covers "NODEMANAGER" :=
    ComponentScope.not_covers_none _
  exact ⟨hcollected, (hcovers hcollected).2, hskipped hyarn, hmetrics both rfl⟩

end CollectionPlan

end ClusterMonitor

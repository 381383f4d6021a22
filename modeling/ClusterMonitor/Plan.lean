import ClusterMonitor.InitSection
import ClusterMonitor.Whitelist.Document

/-!
# Collection plans

What to check for each discovered service and component, from the two toggles and the selection of
an instance:

* a service or component that is not listed is not checked;
* a service listed without components, and a component listed without headers, have their status
  checked and no metrics collected;
* a component with headers has the metrics under these headers collected.

Both answers are further subject to their toggles. With both toggles off nothing is looked up.
-/

namespace ClusterMonitor

/-- Which metrics of a component are collected. -/
inductive MetricSelection where
  | all
  | headers (listed : List MetricHeader)
  | nothing
deriving DecidableEq, Repr

namespace MetricSelection

/-- Is the metric with this path collected? -/
def includes : MetricSelection → String → Bool
  | .all, _ => true
  | .headers listed, path => listed.any fun h => h.matches path
  | .nothing, _ => false

def isNothing : MetricSelection → Bool
  | .nothing => true
  | .headers listed => listed.isEmpty
  | .all => false

/-- The document form: the kind, and the headers if they are listed. -/
def toValue : MetricSelection → Value
  | .all => .ofPairs [("kind", .string "all")]
  | .headers listed => .ofPairs [("kind", .string "headers"), ("headers", .ofStrings listed)]
  | .nothing => .ofPairs [("kind", .string "nothing")]

end MetricSelection

/-- Which components of a service are eligible. -/
inductive ComponentScope where
  | all
  | listed (components : List String)
  | none
deriving DecidableEq, Repr

/-- The document form: the kind, and the components if they are listed. -/
def ComponentScope.toValue : ComponentScope → Value
  | .all => .ofPairs [("kind", .string "all")]
  | .listed components =>
    .ofPairs [("kind", .string "listed"), ("components", .ofStrings components)]
  | .none => .ofPairs [("kind", .string "none")]

/-- What to check for a service. -/
structure ServicePlan where
  checkStatus : Bool
  components : ComponentScope
deriving DecidableEq, Repr

namespace ServicePlan

/-- Nothing is checked. -/
def skip : ServicePlan := ⟨false, .none⟩

def isSkipped (p : ServicePlan) : Bool := !p.checkStatus && p.components == .none

def toValue (p : ServicePlan) : Value :=
  .ofPairs [("check_status", .bool p.checkStatus), ("components", p.components.toValue)]

end ServicePlan

/-- What to check for a component. -/
structure ComponentPlan where
  checkStatus : Bool
  metrics : MetricSelection
deriving DecidableEq, Repr

namespace ComponentPlan

/-- Nothing is checked. -/
def skip : ComponentPlan := ⟨false, .nothing⟩

def isSkipped (p : ComponentPlan) : Bool := !p.checkStatus && p.metrics.isNothing

def toValue (p : ComponentPlan) : Value :=
  .ofPairs [("check_status", .bool p.checkStatus), ("metrics", p.metrics.toValue)]

end ComponentPlan

/-- The plan of an instance: the toggles and what is eligible. -/
structure CollectionPlan where
  collectMetrics : Bool
  collectStatus : Bool
  selection : ServiceSelection

namespace CollectionPlan

/-- The plan of an instance with this selection. -/
def ofInit (i : InitSection) (selection : ServiceSelection) : CollectionPlan :=
  ⟨i.collectMetrics, i.collectStatus, selection⟩

/-- Are both toggles off? -/
def isDisabled (p : CollectionPlan) : Bool := !p.collectMetrics && !p.collectStatus

/-- The components that a listing of a service makes eligible. -/
def scopeOf (components : Components) : ComponentScope :=
  if components.isEmpty then .none else .listed (Dict.keys components)

/-- The plan for a service. -/
def service (p : CollectionPlan) (name : String) : ServicePlan :=
  if p.isDisabled then .skip
  else
    match p.selection with
    | .unrestricted => ⟨p.collectStatus, .all⟩
    | .listed w =>
      match w.components? name with
      | none => .skip
      | some components => ⟨p.collectStatus, scopeOf components⟩

/-- The metrics that a listing of a component selects. -/
def metricsOf (headers : List MetricHeader) : MetricSelection :=
  if headers.isEmpty then .nothing else .headers headers

/-- The plan for an eligible component with these metrics. -/
def eligible (p : CollectionPlan) (metrics : MetricSelection) : ComponentPlan :=
  ⟨p.collectStatus, if p.collectMetrics then metrics else .nothing⟩

/-- The plan for a component of a service. -/
def component (p : CollectionPlan) (service name : String) : ComponentPlan :=
  if p.isDisabled then .skip
  else
    match p.selection with
    | .unrestricted => p.eligible .all
    | .listed w =>
      match w.headers? service name with
      | none => .skip
      | some headers => p.eligible (metricsOf headers)

end CollectionPlan

end ClusterMonitor

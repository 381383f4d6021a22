import ClusterMonitor.Duration
import ClusterMonitor.Options

/-!
# The shared section

What all instances have in common: the two toggles, and defaults for what an instance may set itself.

* `InitSection` — the section; `InitSection.ofOptions` takes it from checked options.
* `InitSection.read` — reads it from a document; it never fails, and reports what it does not use.
* `InitSection.toValue` — the document form.
-/

namespace ClusterMonitor

/-- The seconds that a server is waited for unless a document says otherwise. -/
def defaultTimeout : Float := 10.0

/-- The section that all instances share. -/
structure InitSection where
  collectMetrics : Bool := true
  collectStatus : Bool := false
  service : Option String := none
  /-- Seconds. -/
  timeout : Float := defaultTimeout

namespace InitSection

def ofOptions (o : Options) : InitSection :=
  { collectMetrics := (o.bool? "collect_service_metrics").getD true
    collectStatus := (o.bool? "collect_service_status").getD false
    service := o.string? "service"
    timeout := (o.float? "timeout").getD defaultTimeout }

/-- The supplied options of the section; anything but a mapping counts as an empty one. -/
def supplied : Option Value → Dict Value × List Diagnostic
  | none => ([], [])
  | some .null => ([], [])
  | some (.object members) => (members, [])
  | some v =>
    ([], [.error Code.typeMismatch .initConfig
      s!"init_config must be a mapping, got {v.describe}; using defaults"])

/-- Reads the section of a document. -/
def read (s : Schema) (section? : Option Value) : InitSection × List Diagnostic :=
  let (members, reports) := supplied section?
  match (Checker.ofInitConfig s).check members with
  | (.ok options, later) => (ofOptions options, reports ++ later)
  | (.error e, later) => ({}, reports ++ later ++ [.error e.code .initConfig e.message])

/-- Is the whitelist of an instance looked at? -/
def consultsWhitelist (i : InitSection) : Bool := i.collectMetrics || i.collectStatus

/-- The timeout as a duration. -/
def timeoutDuration (i : InitSection) : Duration :=
  (Duration.ofSeconds? i.timeout).getD (.ofWholeSeconds 10)

/-- The document form. -/
def toValue (i : InitSection) : Value :=
  .ofPairs <|
    [("collect_service_metrics", Value.bool i.collectMetrics),
      ("collect_service_status", .bool i.collectStatus), ("timeout", .ofFloat i.timeout)] ++
    (i.service.map fun s => ("service", Value.string s)).toList

/-- Equality of sections. -/
def same (i j : InitSection) : Bool :=
  i.collectMetrics == j.collectMetrics && i.collectStatus == j.collectStatus &&
    i.service == j.service && i.timeout == j.timeout

instance : BEq InitSection := ⟨same⟩

end InitSection

end ClusterMonitor

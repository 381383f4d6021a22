import ClusterMonitor.CommandLine.Action
import ClusterMonitor.Proofs.Config.RoundTrip
import ClusterMonitor.Proofs.Redaction.Values

/-!
# What a report shows of URLs

Of the URL of an accepted instance a report shows the redacted text and no more, in its line, in the
diagnostics and in the dumped document.

* `Configuration.SameShown` — configurations that differ in URLs only, which look the same redacted.
* `Configuration.redactedValue_of_sameShown` — their document forms as they may be shown.
* `Action.validate_of_load` and `Action.validate_of_sameShown` — what is printed of them.
-/

namespace ClusterMonitor

/-! ## Alike up to what is redacted -/

/-- The instances differ in their URLs at most, and these look the same redacted. -/
def Instance.SameShown (i j : Instance) : Prop :=
  ∃ url, j = { i with url } ∧ redact i.url.text = redact url.text

/-- The entries are refused for the same reason, or accepted as instances that look the same. -/
def InstanceOutcome.SameShown (o p : InstanceOutcome) : Prop :=
  o.index = p.index ∧
    ((∃ e, o.result = .error e ∧ p.result = .error e) ∨
      ∃ i j, o.result = .ok i ∧ p.result = .ok j ∧ i.SameShown j)

/-- The diagnostics are equally serious and look the same redacted. -/
def Diagnostic.SameShown (d e : Diagnostic) : Prop :=
  d.isError = e.isError ∧ redact d.text = redact e.text

/-- The configurations differ in nothing that is left of them once they are redacted. -/
structure Configuration.SameShown (c d : Configuration) : Prop where
  init : c.init = d.init
  logs : c.logs = d.logs
  instances : List.Forall₂ InstanceOutcome.SameShown c.instances d.instances
  diagnostics : List.Forall₂ Diagnostic.SameShown c.diagnostics d.diagnostics

/-- Lists that agree item by item under two functions have the same images. -/
theorem map_eq_map_of_forall₂ {α β γ : Type} {f : α → γ} {g : β → γ} {xs : List α} {ys : List β}
    (h : List.Forall₂ (fun x y => f x = g y) xs ys) : xs.map f = ys.map g := by
  rw [← List.forall₂_eq_eq_eq, List.forall₂_map_left_iff, List.forall₂_map_right_iff]
  exact h

/-! ## Document forms -/

namespace Redactor

variable (r : Redactor) (secretKeys : List String)

/-- The members of an object are redacted one by one. -/
theorem redactValue_ofPairs (members : Dict Value) :
    r.redactValue secretKeys (.ofPairs members) =
      .ofPairs (Dict.mapEntries (r.redactMember secretKeys) members) := by
  rw [Value.ofPairs, redactValue, redactMembers_eq, Value.ofPairs, Dict.ofPairs_mapEntries]

end Redactor

/-- Instances that are shown alike have the same redacted document form. -/
theorem Instance.redactValue_of_sameShown {i j : Instance} (h : i.SameShown j)
    (secretKeys : List String) :
    ({} : Redactor).redactValue secretKeys i.toValue =
      ({} : Redactor).redactValue secretKeys j.toValue := by
  obtain ⟨url, rfl, hurl⟩ := h
  have hmember : ({} : Redactor).redactMember secretKeys "url" (.string i.url.text) =
      ({} : Redactor).redactMember secretKeys "url" (.string url.text) :=
    Redactor.redactMember_congr _ _ rfl rfl (Or.inr (by
      simp only [Redactor.redactValue]
      exact congrArg Value.string hurl))
  rw [toValue_eq, toValue_eq, Redactor.redactValue_ofPairs, Redactor.redactValue_ofPairs]
  simp only [members, Dict.mapEntries_append, Dict.mapEntries_cons, Dict.mapEntries_nil, hmember]

namespace Configuration

variable {c d : Configuration}

/-- Configurations that are shown alike have valid instances that are, in the same places. -/
theorem forall₂_validInstances (h : c.SameShown d) :
    List.Forall₂ (fun p q : Nat × Instance => p.2.SameShown q.2) c.validInstances
      d.validInstances := by
  refine List.rel_filterMap (fun o p hsame => ?_) h.instances
  rcases hsame with ⟨-, ⟨e, ho, hp⟩ | ⟨i, j, ho, hp, hinstance⟩⟩
  · simp only [valid?, ho, hp]
    exact .none
  · simp only [valid?, ho, hp]
    exact .some hinstance

theorem failedInstances_of_sameShown (h : c.SameShown d) :
    c.failedInstances = d.failedInstances := by
  rw [← List.forall₂_eq_eq_eq]
  refine List.rel_filterMap (fun o p hsame => ?_) h.instances
  rcases hsame with ⟨hindex, ⟨e, ho, hp⟩ | ⟨i, j, ho, hp, -⟩⟩
  · simp only [failed?, ho, hp]
    exact .some (by rw [hindex])
  · simp only [failed?, ho, hp]
    exact .none

theorem redactedValue_of_sameShown (h : c.SameShown d) (s : Schema) :
    c.redactedValue s = d.redactedValue s := by
  have hentries : ({} : Redactor).redactValue s.secretKeys
        (.array (c.validInstances.map fun p => p.2.toValue)) =
      ({} : Redactor).redactValue s.secretKeys
        (.array (d.validInstances.map fun p => p.2.toValue)) := by
    have hforms : List.Forall₂ (fun v w => ({} : Redactor).redactValue s.secretKeys v =
        ({} : Redactor).redactValue s.secretKeys w)
        (c.validInstances.map fun p => p.2.toValue) (d.validInstances.map fun p => p.2.toValue) := by
      refine List.rel_map ?_ (forall₂_validInstances h)
      exact fun p q hsame => Instance.redactValue_of_sameShown hsame s.secretKeys
    simp only [Redactor.redactValue, Redactor.redactItems_eq, map_eq_map_of_forall₂ hforms]
  have hmember : ({} : Redactor).redactMember s.secretKeys "instances"
        (.array (c.validInstances.map fun p => p.2.toValue)) =
      ({} : Redactor).redactMember s.secretKeys "instances"
        (.array (d.validInstances.map fun p => p.2.toValue)) :=
    Redactor.redactMember_congr _ _ rfl rfl (Or.inr hentries)
  unfold redactedValue
  rw [toValue_eq, toValue_eq, Redactor.redactValue_ofPairs, Redactor.redactValue_ofPairs]
  simp only [members, h.init, h.logs, Dict.mapEntries_append, Dict.mapEntries_cons,
    Dict.mapEntries_nil, hmember]

end Configuration

/-! ## Reports -/

namespace CommandLine.Action

/-- Outcomes that are shown alike make the same line of a report. -/
theorem outcomeLine_of_sameShown {o p : InstanceOutcome} (h : o.SameShown p) (style : Style) :
    outcomeLine style o = outcomeLine style p := by
  rcases h with ⟨hindex, ⟨e, ho, hp⟩ | ⟨i, j, ho, hp, url, rfl, hurl⟩⟩
  · simp only [outcomeLine, hindex, ho, hp]
  · simp only [outcomeLine, hindex, ho, hp, hurl]

theorem diagnosticLine_of_sameShown {d e : Diagnostic} (h : d.SameShown e) (style : Style) :
    diagnosticLine style d = diagnosticLine style e := by
  simp only [diagnosticLine, h.1, h.2]

/-- A summary counts the reports that are errors, and those that are not. -/
theorem ofDiagnostics_eq (ds : List Diagnostic) :
    Summary.ofDiagnostics ds =
      ⟨(ds.map Diagnostic.isError).countP not, (ds.map Diagnostic.isError).countP id⟩ := by
  simp [Summary.ofDiagnostics, List.countP_map, Function.comp_def]

/-- Configurations that are shown alike have the same summary. -/
theorem summaryLine_of_sameShown {c d : Configuration} (h : c.SameShown d) :
    summaryLine c = summaryLine d := by
  have hvalid := (Configuration.forall₂_validInstances h).length_eq
  have hfailed := Configuration.failedInstances_of_sameShown h
  have herrors := map_eq_map_of_forall₂ (h.diagnostics.imp fun _ _ hsame => hsame.1)
  simp only [summaryLine, ofDiagnostics_eq, hvalid, hfailed, herrors]

/-- The diagnostics have a heading if there are any. -/
theorem diagnosticLines_of_sameShown {ds es : List Diagnostic}
    (h : List.Forall₂ Diagnostic.SameShown ds es) (style : Style) :
    diagnosticLines style ds = diagnosticLines style es := by
  have hlines := map_eq_map_of_forall₂
    (h.imp fun _ _ hsame => diagnosticLine_of_sameShown hsame style)
  cases h with
  | nil => rfl
  | cons => simp only [diagnosticLines, hlines]

theorem report_of_sameShown {c d : Configuration} (h : c.SameShown d) (style : Style)
    (file : String) (dump : Bool) (schema : Schema) :
    report style file dump schema c = report style file dump schema d := by
  have houtcomes := map_eq_map_of_forall₂
    (h.instances.imp fun _ _ hsame => outcomeLine_of_sameShown hsame style)
  have hdump := Configuration.redactedValue_of_sameShown h schema
  simp only [report, dumpLines, h.logs, h.instances.length_eq, houtcomes, hdump,
    diagnosticLines_of_sameShown h.diagnostics, summaryLine_of_sameShown h]

/-- Of a configuration that is loaded the report is printed. -/
theorem validate_of_load {s : Surroundings} {file : String} {c : Configuration}
    (h : load s (.ofFile file) = .ok c) (style : Style) (dump : Bool) :
    validate s style file dump = .ok
      ⟨ofLines (report style file dump (Engine.ofFile file).schema c),
        c.failedInstances.isEmpty⟩ := by
  simp only [validate, h]
  rfl

/-- Where the configurations that are loaded differ only in URLs of accepted instances, and these look
the same redacted, the same is printed and answered. -/
theorem validate_of_sameShown {s t : Surroundings} {file : String} {c d : Configuration}
    (hc : load s (.ofFile file) = .ok c) (hd : load t (.ofFile file) = .ok d) (h : c.SameShown d)
    (style : Style) (dump : Bool) :
    validate s style file dump = validate t style file dump := by
  rw [validate_of_load hc, validate_of_load hd, report_of_sameShown h,
    Configuration.failedInstances_of_sameShown h]

end CommandLine.Action

end ClusterMonitor

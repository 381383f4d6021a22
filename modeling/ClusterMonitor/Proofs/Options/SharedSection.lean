import ClusterMonitor.InitSection
import ClusterMonitor.Proofs.Options.Contract

/-!
# What the shared section keeps

An option of the shared section that is unusable is dropped alone, and the others stay. A required
option that is missing is not: it fails the whole section, which falls back to its defaults, whatever
else the document gives.

* `Checker.FirstOffence.exists_mem` — whoever fails a scope is one of its options.
* `InitSection.TakesFrom` — the field of an option comes from a value.
* `InitSection.read_keeps_admitted_iff` — usable values are kept exactly when no required option is
  missing.
-/

namespace ClusterMonitor

namespace Checker

variable {p : Place} {supplied : Dict Value} {e : ConfigError}

/-- The first offence is one of an option. -/
theorem FirstOffence.exists_mem {options : List OptionSpec} (h : FirstOffence p supplied options e) :
    ∃ o ∈ options, Offends p supplied o e := by
  induction h with
  | here h => exact ⟨_, List.mem_cons_self, h⟩
  | later _ _ ih =>
    obtain ⟨o, ho, h⟩ := ih
    exact ⟨o, List.mem_cons_of_mem _ ho, h⟩

/-- The shared section fails for nothing but a missing option. -/
theorem offends_initConfig_iff {o : OptionSpec} :
    Offends .initConfig supplied o e ↔
      o.required = true ∧ (∀ v, ¬ Gives supplied o v) ∧ e = .missingRequiredOption o.name := by
  constructor
  · rintro (⟨hrequired, hnone⟩ | ⟨hplace, -, -, -⟩ | ⟨hplace, -, -, -, -⟩)
    · exact ⟨hrequired, hnone, rfl⟩
    · cases hplace
    · cases hplace
  · rintro ⟨hrequired, hnone, rfl⟩
    exact .missing hrequired hnone

end Checker

namespace InitSection

/-- The field of an option, if it has one, is what the value says. -/
structure TakesFrom (i : InitSection) (name : String) (v : Value) : Prop where
  collectMetrics : name = "collect_service_metrics" → i.collectMetrics = v.asBool?.getD true
  collectStatus : name = "collect_service_status" → i.collectStatus = v.asBool?.getD false
  service : name = "service" → i.service = v.asString?
  timeout : name = "timeout" → i.timeout = v.asFloat?.getD defaultTimeout

/-- The section takes each option from the result of the check. -/
theorem takesFrom_ofOptions {options : Options} {name : String} {v : Value}
    (h : Dict.get? options name = some v) : (ofOptions options).TakesFrom name v := by
  constructor <;> rintro rfl <;>
    simp [ofOptions, Options.bool?, Options.string?, Options.float?, h]

variable {s : Schema} {supplied : Dict Value}

/-- Where the check succeeds, the section is made of its result. -/
theorem read_object_of_check_ok {options : Options}
    (h : ((Checker.ofInitConfig s).check supplied).1 = .ok options) :
    (read s (some (.object supplied))).1 = ofOptions options := by
  have hcheck : (Checker.ofInitConfig s).check supplied =
      (.ok options, ((Checker.ofInitConfig s).check supplied).2) := Prod.ext h rfl
  rw [read, InitSection.supplied]
  simp only
  rw [hcheck]

/-- Where it fails, the section is the one without any options, and the error is reported. -/
theorem read_object_of_check_error {e : ConfigError}
    (h : ((Checker.ofInitConfig s).check supplied).1 = .error e) :
    (read s (some (.object supplied))).1 = {} ∧
      Diagnostic.error e.code .initConfig e.message ∈ (read s (some (.object supplied))).2 := by
  have hcheck : (Checker.ofInitConfig s).check supplied =
      (.error e, ((Checker.ofInitConfig s).check supplied).2) := Prod.ext h rfl
  rw [read, InitSection.supplied]
  simp only
  rw [hcheck]
  exact ⟨rfl, by simp⟩

/-- The shared section passes exactly when each required option is given. Then each usable value is
kept, and its field is taken from it, whatever is wrong with other options. Else nothing is kept: the
section is the one without any options, and the missing option is reported. -/
theorem read_keeps_admitted_iff (hs : s.check = .ok ()) (supplied : Dict Value) :
    let checked := ((Checker.ofInitConfig s).check supplied).1
    let shared := read s (some (.object supplied))
    ((∃ options, checked = .ok options) ↔
      ∀ o ∈ s.initConfig, o.required = true → ∃ v, Checker.Gives supplied o v) ∧
    (∀ options, checked = .ok options →
      ∀ o ∈ s.initConfig, ∀ v, Checker.Gives supplied o v → o.value.Admits v →
        Dict.get? options o.name = some v ∧ shared.1.TakesFrom o.name v) ∧
    ∀ e, checked = .error e →
      shared.1 = {} ∧ Diagnostic.error e.code .initConfig e.message ∈ shared.2 ∧
        ∃ o ∈ s.initConfig, o.required = true ∧ (∀ v, ¬ Checker.Gives supplied o v) ∧
          e = .missingRequiredOption o.name := by
  intro checked shared
  have hc : (Checker.ofInitConfig s).Consistent := Checker.consistent_ofPlace hs .initConfig
  refine ⟨?_, ?_, ?_⟩
  · constructor
    · rintro ⟨options, h⟩
      exact (Checker.no_offence_iff.mp (Checker.no_offence_of_check_ok h)).1
    · -- in the shared section an unusable value is no offence
      intro hgiven
      have hfine : ∀ o ∈ s.initConfig, ∀ e, ¬ Checker.Offends .initConfig supplied o e :=
        Checker.no_offence_iff.mpr ⟨hgiven, fun hplace => absurd rfl hplace⟩
      have hcheck := Checker.check_of_no_offence (c := Checker.ofInitConfig s) hfine
      exact ⟨_, congrArg Prod.fst hcheck⟩
  · intro options h o ho v hgiven hv
    have hkept : Dict.get? options o.name = some v := by
      rw [Checker.get?_check hc h ho]
      exact Checker.settled_of_admits hgiven hv
    have hshared : shared.1 = ofOptions options := read_object_of_check_ok h
    rw [hshared]
    exact ⟨hkept, takesFrom_ofOptions hkept⟩
  · intro e h
    obtain ⟨hdefaults, hreport⟩ := read_object_of_check_error h
    obtain ⟨o, ho, hoffends⟩ := ((Checker.check_fst_eq_error_iff e).mp h).exists_mem
    exact ⟨hdefaults, hreport, o, ho, Checker.offends_initConfig_iff.mp hoffends⟩

/-- An unusable timeout leaves the toggle beside it as it is given. -/
theorem read_keeps_admitted_iff_unusable_timeout :
    let status : OptionSpec := { name := "collect_service_status", value := { type := .boolean } }
    let timeout : OptionSpec := { name := "timeout", value := { type := .number } }
    let url : OptionSpec := { name := "url", required := true, value := { type := .string } }
    let s : Schema := { name := "s", initConfig := [status, timeout], instances := [url] }
    let supplied : Dict Value := [("collect_service_status", .bool true), ("timeout", .string "x")]
    s.check = .ok () ∧ (read s (some (.object supplied))).1.collectStatus = true := by
  intro status timeout url s supplied
  have hs : s.check = .ok () := by
    unfold s status timeout url
    rfl
  obtain ⟨hpasses, hkeeps, -⟩ := read_keeps_admitted_iff hs supplied
  have hrequired : ∀ o ∈ s.initConfig, o.required = true → ∃ v, Checker.Gives supplied o v := by
    simp [s, status, timeout]
  obtain ⟨options, hoptions⟩ := hpasses.mpr hrequired
  have hgiven : Checker.Gives supplied status (.bool true) := ⟨rfl, nofun⟩
  obtain ⟨-, htakes⟩ := hkeeps options hoptions status (by simp [s]) _ hgiven ⟨rfl, rfl⟩
  exact ⟨hs, htakes.collectStatus rfl⟩

/-- A section without a required option loses the usable value beside it. -/
theorem read_loses_admitted :
    let region : OptionSpec := { name := "region", required := true, value := { type := .string } }
    let status : OptionSpec := { name := "collect_service_status", value := { type := .boolean } }
    let url : OptionSpec := { name := "url", required := true, value := { type := .string } }
    let s : Schema := { name := "s", initConfig := [region, status], instances := [url] }
    let supplied : Dict Value := [("collect_service_status", .bool true)]
    s.check = .ok () ∧ Checker.Gives supplied status (.bool true) ∧
      status.value.Admits (.bool true) ∧
      ((Checker.ofInitConfig s).check supplied).1 = .error (.missingRequiredOption "region") ∧
      (read s (some (.object supplied))).1.collectStatus = false := by
  intro region status url s supplied
  have hs : s.check = .ok () := by
    unfold s region status url
    rfl
  exact ⟨hs, ⟨rfl, nofun⟩, ⟨rfl, rfl⟩, rfl, rfl⟩

end InitSection

end ClusterMonitor

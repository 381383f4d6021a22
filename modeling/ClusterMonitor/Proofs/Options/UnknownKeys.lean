import ClusterMonitor.Proofs.Options.Contract

/-!
# Reports on unknown keys

A key that no option declares is reported once, at its own place, if no option fails the scope. The
check ends at the first option that does, and then it has reported on no key: what is misspelt is
not named beside the error on the option that is missing.

* `Checker.undeclaredKeys` and `Checker.reportsOnKeys` — the keys that no option declares, and the
  reports that are made on unknown keys.
* `Checker.code_of_mem_checkOptions` — what is reported on options says nothing of unknown keys.
* `Checker.check_reports_unknown_iff` — the reports on unknown keys, at either end of a check.
-/

namespace ClusterMonitor

theorem ConfigError.code_ne_unknownOption (e : ConfigError) : e.code ≠ Code.unknownOption := by
  cases e <;> simp only [code] <;> decide

namespace Checker

variable {p : Place} {supplied : Dict Value}

/-- The supplied keys that no option declares, in their order. -/
def undeclaredKeys (c : Checker) (supplied : Dict Value) : List String :=
  (Dict.keys supplied).filter fun key => ∀ o ∈ c.options, o.name ≠ key

/-- The reports of a check that are made on unknown keys. -/
def reportsOnKeys (c : Checker) (supplied : Dict Value) : List Diagnostic :=
  (c.check supplied).2.filter fun d => d.code = Code.unknownOption

/-! ## Reports on options -/

/-- A warning about a deprecated option has its own code. -/
theorem code_of_mem_deprecation {o : OptionSpec} {d : Diagnostic} (h : d ∈ deprecation p o) :
    d.code = Code.deprecatedOption := by
  cases hnote : o.deprecated with
  | none => simp [deprecation, hnote] at h
  | some note =>
    simp only [deprecation, hnote, List.mem_singleton] at h
    rw [h]
    rfl

/-- What is said of a failed option has the code of its error. -/
theorem code_of_mem_recover {o : OptionSpec} {e : ConfigError} {d : Diagnostic}
    (h : d ∈ (recover p o e).2) : d.code = e.code := by
  unfold recover at h
  split at h
  · rw [List.mem_singleton.mp h]
    rfl
  · cases p with
    | «instance» index => cases h
    | initConfig =>
      rw [List.mem_singleton.mp h]
      rfl

/-- What is reported on an option is that it is deprecated, or why its value is not used. -/
theorem code_of_mem_checkOption {o : OptionSpec} {d : Diagnostic}
    (h : d ∈ (checkOption p supplied o).2) : d.code ≠ Code.unknownOption := by
  have hdeprecated : Code.deprecatedOption ≠ Code.unknownOption := by decide
  unfold checkOption at h
  split at h
  · split at h <;> cases h
  · split at h
    · rw [code_of_mem_deprecation h]
      exact hdeprecated
    · rename_i e _
      rcases List.mem_append.mp h with h | h
      · rw [code_of_mem_deprecation h]
        exact hdeprecated
      · rw [code_of_mem_recover h]
        exact e.code_ne_unknownOption

/-- Checking the options reports no unknown key. -/
theorem filter_checkOptions (p : Place) (supplied : Dict Value) (found : Options)
    (options : List OptionSpec) :
    ((checkOptions p supplied found options).2.filter fun d => d.code = Code.unknownOption) =
      [] := by
  refine List.filter_eq_nil_iff.mpr fun d hd => ?_
  obtain ⟨o, -, ho⟩ := exists_of_mem_checkOptions hd
  simpa using code_of_mem_checkOption ho

/-! ## The two ends of a check -/

/-- Each undeclared key is reported once, as a warning, in the order of the keys. -/
theorem unknownKeys_eq_map (c : Checker) (supplied : Dict Value) :
    c.unknownKeys supplied = (c.undeclaredKeys supplied).map fun key =>
      Diagnostic.warning Code.unknownOption (c.place.key key) s!"unknown option `{key}` ignored" :=
  unknownKeys_eq c supplied

/-- All these reports have the code of an unknown option. -/
theorem filter_unknownKeys (c : Checker) (supplied : Dict Value) :
    ((c.unknownKeys supplied).filter fun d => d.code = Code.unknownOption) =
      c.unknownKeys supplied := by
  refine List.filter_eq_self.mpr fun d hd => ?_
  obtain ⟨key, -, rfl⟩ := List.mem_map.mp hd
  exact decide_eq_true rfl

/-- A check that fails ends before it comes to the keys. -/
theorem reportsOnKeys_eq (c : Checker) (supplied : Dict Value) :
    c.reportsOnKeys supplied =
      match (c.check supplied).1 with
      | .ok _ => c.unknownKeys supplied
      | .error _ => [] := by
  have hoptions := filter_checkOptions c.place supplied [] c.options
  unfold reportsOnKeys check
  rcases hpass : checkOptions c.place supplied [] c.options with ⟨e | found, reports⟩
  · rw [hpass] at hoptions
    exact hoptions
  · rw [hpass] at hoptions
    simp only [List.filter_append, hoptions, filter_unknownKeys, List.nil_append]

/-- The keys that no option declares are all different, and each of them is reported on, once and in
its place, exactly if there is none or the check passes. A check that fails reports on no key. -/
theorem check_reports_unknown_iff (c : Checker) (supplied : Dict Value)
    (hsupplied : Dict.Ordered supplied) :
    let reported := (c.undeclaredKeys supplied).map fun key =>
      Diagnostic.warning Code.unknownOption (c.place.key key) s!"unknown option `{key}` ignored"
    (c.undeclaredKeys supplied).Nodup ∧
      (c.reportsOnKeys supplied = reported ↔
        c.undeclaredKeys supplied = [] ∨ ∃ r, (c.check supplied).1 = .ok r) ∧
      ∀ e, (c.check supplied).1 = .error e → c.reportsOnKeys supplied = [] := by
  intro reported
  refine ⟨(Dict.nodup_keys_of_ordered hsupplied).filter _, ?_, ?_⟩
  · rw [reportsOnKeys_eq]
    cases hcheck : (c.check supplied).1 with
    | error e =>
      -- nothing is reported, which is right if there is nothing to report
      constructor
      · intro h
        exact Or.inl (List.map_eq_nil_iff.mp h.symm)
      · rintro (hnone | ⟨r, hr⟩)
        · exact (List.map_eq_nil_iff.mpr hnone).symm
        · cases hr
    | ok r => exact ⟨fun _ => Or.inr ⟨r, rfl⟩, fun _ => unknownKeys_eq_map c supplied⟩
  · intro e he
    rw [reportsOnKeys_eq, he]

/-- An entry with two unknown keys that passes: both are reported. -/
theorem check_reports_unknown_iff_two_keys :
    let c := ofInstance Schema.builtin 2
    let supplied : Dict Value :=
      [("colour", .null), ("url", .string "http://one:8080"), ("zone", .int 1)]
    Dict.Ordered supplied ∧
      c.reportsOnKeys supplied =
        [.warning Code.unknownOption (.key (some 2) "colour") "unknown option `colour` ignored",
          .warning Code.unknownOption (.key (some 2) "zone") "unknown option `zone` ignored"] := by
  intro c supplied
  have hordered : Dict.Ordered supplied := by
    simp only [supplied, Dict.Ordered]
    decide
  obtain ⟨-, hreported, -⟩ := check_reports_unknown_iff c supplied hordered
  exact ⟨hordered, hreported.mpr (Or.inr ⟨_, rfl⟩)⟩

/-- An entry with a misspelt `url` fails, and the misspelt key is not reported. -/
theorem check_misspelt_unreported :
    let c := ofInstance Schema.builtin 0
    let supplied : Dict Value := [("ulr", .string "http://one:8080")]
    Schema.builtin.check = .ok () ∧ Dict.Ordered supplied ∧
      c.undeclaredKeys supplied = ["ulr"] ∧
      c.check supplied = (.error (.missingRequiredOption "url"), []) := by
  intro c supplied
  have hordered : Dict.Ordered supplied := by
    simp only [supplied, Dict.Ordered]
    decide
  exact ⟨Schema.check_builtin, hordered, by decide, rfl⟩

end Checker

end ClusterMonitor

import ClusterMonitor.Proofs.Dict
import ClusterMonitor.Proofs.Schema.Consistency

/-!
# The contract of checked options

What checking the options of a scope comes to, said option by option: which option fails the scope
and with which error, which value is left, and which reports are owed. The check is one pass over
the options with an early end; everything here is derived from what the pass does at a single
option.

* `Checker.Offends` and `Checker.FirstOffence` — an option that fails the scope, and the first one.
* `Checker.settled` and `Checker.owed` — the value and the reports of an option that does not.
* `Checker.checkOptions_eq_error_iff`, `Checker.checkOptions_of_no_offence` — the pass.
* `Checker.check_contract` — the whole contract, for a schema that passes its own rules.
-/

namespace ClusterMonitor.Checker

variable {p : Place} {supplied : Dict Value} {o : OptionSpec}

/-- The object has this value for the option, and it is not `null`. -/
def Gives (supplied : Dict Value) (o : OptionSpec) (v : Value) : Prop :=
  Dict.get? supplied o.name = some v ∧ v ≠ .null

/-- A value is taken as given if the section has it under the name of the option and it is not
null. -/
theorem given?_eq_some_iff (v : Value) :
    Value.given? supplied o.name = some v ↔ Gives supplied o v := by
  have hnull : (!v.isNull) = true ↔ v ≠ .null := by
    cases v <;> simp [Value.isNull]
  simp [Value.given?, Gives, Option.filter_eq_some_iff, hnull]

/-- An option is not given if the section has nothing for it, or null. -/
theorem given?_eq_none_iff :
    Value.given? supplied o.name = none ↔ ∀ v, ¬ Gives supplied o v := by
  rw [Option.eq_none_iff_forall_ne_some]
  exact forall_congr' fun v => not_congr (given?_eq_some_iff v)

theorem Gives.unique {v w : Value} (hv : Gives supplied o v) (hw : Gives supplied o w) : v = w :=
  Option.some.inj (hv.1.symm.trans hw.1)

/-- The option fails the scope with this error: it is required and not given, or an instance has an
unusable value for it that no default stands in for. -/
inductive Offends (p : Place) (supplied : Dict Value) (o : OptionSpec) : ConfigError → Prop where
  | missing (hrequired : o.required = true) (hgiven : ∀ v, ¬ Gives supplied o v) :
      Offends p supplied o (.missingRequiredOption o.name)
  | wrongType {index : Nat} {v : Value} {fault : TypeFault} (hplace : p = .instance index)
      (hgiven : Gives supplied o v) (hdefault : o.value.default = none)
      (htype : o.value.checkType v = .error fault) :
      Offends p supplied o (.typeMismatch o.name fault.expected fault.actual)
  | notAllowed {index : Nat} {v : Value} {fault : RangeFault} (hplace : p = .instance index)
      (hgiven : Gives supplied o v) (hdefault : o.value.default = none)
      (htype : o.value.checkType v = .ok ()) (hallowed : o.value.checkAllowed v = .error fault) :
      Offends p supplied o (.invalidValue o.name fault.message)

/-- An option offends in at most one way. -/
theorem Offends.unique {e e' : ConfigError} (h : Offends p supplied o e)
    (h' : Offends p supplied o e') : e = e' := by
  rcases h with ⟨-, hnone⟩ | ⟨-, hv, -, htype⟩ | ⟨-, hv, -, htype, hallowed⟩ <;>
    rcases h' with ⟨-, hnone'⟩ | ⟨-, hw, -, htype'⟩ | ⟨-, hw, -, htype', hallowed'⟩
  · rfl
  · exact absurd hw (hnone _)
  · exact absurd hw (hnone _)
  · exact absurd hv (hnone' _)
  · rw [hv.unique hw, htype'] at htype
    cases htype
    rfl
  · rw [hv.unique hw, htype'] at htype
    cases htype
  · exact absurd hv (hnone' _)
  · rw [hv.unique hw, htype'] at htype
    cases htype
  · rw [hv.unique hw, hallowed'] at hallowed
    cases hallowed
    rfl

/-- The error of the first option that fails the scope. -/
inductive FirstOffence (p : Place) (supplied : Dict Value) :
    List OptionSpec → ConfigError → Prop where
  | here {o : OptionSpec} {rest : List OptionSpec} {e : ConfigError}
      (h : Offends p supplied o e) : FirstOffence p supplied (o :: rest) e
  | later {o : OptionSpec} {rest : List OptionSpec} {e : ConfigError}
      (hfirst : ∀ e', ¬ Offends p supplied o e') (hrest : FirstOffence p supplied rest e) :
      FirstOffence p supplied (o :: rest) e

/-- The value that is left of an option: the given one if it is usable, else the default. -/
def settled (supplied : Dict Value) (o : OptionSpec) : Option Value :=
  match Value.given? supplied o.name with
  | none => o.value.default
  | some v =>
    match o.checkValue v with
    | .ok () => some v
    | .error _ => o.value.default

/-- The reports on an option that does not fail the scope. An option that is not given is not
reported on; of a given one it is said that it is deprecated, and then what became of an unusable
value. -/
def owed (p : Place) (supplied : Dict Value) (o : OptionSpec) : List Diagnostic :=
  match Value.given? supplied o.name with
  | none => []
  | some v =>
    (o.deprecated.map fun note => Diagnostic.warning Code.deprecatedOption (p.key o.name)
      s!"option `{o.name}` is deprecated: {note}").toList ++
    match o.checkValue v, o.value.default with
    | .ok (), _ => []
    | .error e, some d =>
      [.warning e.code (p.key o.name) (e.message ++ "; using default " ++ Json.write d)]
    | .error e, none => [.error e.code (p.key o.name) (e.message ++ "; option ignored")]

/-! ## One option -/

/-- A value that is not admitted fails by its type, or else by what is allowed. -/
theorem checkValue_eq_error (h : ¬ o.value.Admits v) :
    (∃ fault, o.value.checkType v = .error fault ∧
      o.checkValue v = .error (.typeMismatch o.name fault.expected fault.actual)) ∨
    ∃ fault, o.value.checkType v = .ok () ∧ o.value.checkAllowed v = .error fault ∧
      o.checkValue v = .error (.invalidValue o.name fault.message) := by
  unfold OptionSpec.checkValue
  cases htype : o.value.checkType v with
  | error fault => exact Or.inl ⟨fault, rfl, rfl⟩
  | ok u =>
    cases hallowed : o.value.checkAllowed v with
    | error fault => exact Or.inr ⟨fault, rfl, rfl, rfl⟩
    | ok u => exact absurd ⟨htype, hallowed⟩ h

/-- The warning of an option is there if the option is deprecated. -/
theorem deprecation_eq (p : Place) (o : OptionSpec) :
    deprecation p o =
      (o.deprecated.map fun note => Diagnostic.warning Code.deprecatedOption (p.key o.name)
        s!"option `{o.name}` is deprecated: {note}").toList := by
  cases h : o.deprecated <;> simp [deprecation, h]

/-- The option fails the scope with the error of its offence, or it offends in no way and gets the
value and the reports that it should. -/
def Judged (p : Place) (supplied : Dict Value) (o : OptionSpec) : Prop :=
  (∃ e, (checkOption p supplied o).1 = .error e ∧ Offends p supplied o e) ∨
    (checkOption p supplied o = (.ok (settled supplied o), owed p supplied o) ∧
      ∀ e, ¬ Offends p supplied o e)

/-- An option that is not given is settled by its default, or offends if it is required. -/
theorem judged_of_not_given (hgiven : Value.given? supplied o.name = none) :
    Judged p supplied o := by
  have hnone := given?_eq_none_iff.mp hgiven
  by_cases hrequired : o.required = true
  · exact Or.inl ⟨_, by simp [checkOption, hgiven, hrequired], .missing hrequired hnone⟩
  · refine Or.inr ⟨by simp [checkOption, hgiven, hrequired, settled, owed], ?_⟩
    rintro e (⟨h, -⟩ | ⟨-, h, -, -⟩ | ⟨-, h, -, -, -⟩)
    · exact hrequired h
    · exact hnone _ h
    · exact hnone _ h

/-- A given value that is admitted settles the option. -/
theorem judged_of_admits {v : Value} (hgiven : Value.given? supplied o.name = some v)
    (hv : o.value.Admits v) : Judged p supplied o := by
  have hgives := (given?_eq_some_iff v).mp hgiven
  have hcheck := (o.checkValue_eq_ok_iff v).mpr hv
  refine Or.inr ⟨by simp [checkOption, hgiven, hcheck, settled, owed, deprecation_eq], ?_⟩
  rintro e (⟨-, h⟩ | ⟨-, h, -, htype⟩ | ⟨-, h, -, -, hallowed⟩)
  · exact h v hgives
  · rw [h.unique hgives, hv.1] at htype
    cases htype
  · rw [h.unique hgives, hv.2] at hallowed
    cases hallowed

/-- An unusable value: the default decides what becomes of it, and without one the scope. -/
theorem judged_of_not_admits {v : Value} (hgiven : Value.given? supplied o.name = some v)
    (hv : ¬ o.value.Admits v) : Judged p supplied o := by
  have hgives := (given?_eq_some_iff v).mp hgiven
  cases hdefault : o.value.default with
  | some d =>
    refine Or.inr ⟨?_, ?_⟩
    · rcases checkValue_eq_error hv with ⟨fault, -, hcheck⟩ | ⟨fault, -, -, hcheck⟩ <;>
        simp [checkOption, hgiven, hcheck, recover, settled, owed, deprecation_eq, hdefault]
    · rintro e (⟨-, h⟩ | ⟨-, -, h, -⟩ | ⟨-, -, h, -, -⟩)
      · exact h v hgives
      · rw [hdefault] at h
        cases h
      · rw [hdefault] at h
        cases h
  | none =>
    cases p with
    | «instance» index =>
      left
      rcases checkValue_eq_error hv with ⟨fault, htype, hcheck⟩ | ⟨fault, htype, hallowed, hcheck⟩
      · exact ⟨_, by simp [checkOption, hgiven, hcheck, recover, hdefault],
          .wrongType rfl hgives hdefault htype⟩
      · exact ⟨_, by simp [checkOption, hgiven, hcheck, recover, hdefault],
          .notAllowed rfl hgives hdefault htype hallowed⟩
    | initConfig =>
      refine Or.inr ⟨?_, ?_⟩
      · rcases checkValue_eq_error hv with ⟨fault, -, hcheck⟩ | ⟨fault, -, -, hcheck⟩ <;>
          simp [checkOption, hgiven, hcheck, recover, settled, owed, deprecation_eq, hdefault]
      · rintro e (⟨-, h⟩ | ⟨h, -, -, -⟩ | ⟨h, -, -, -, -⟩)
        · exact h v hgives
        · cases h
        · cases h

/-- Checking an option does what the contract says, in each of the three cases. -/
theorem judged (p : Place) (supplied : Dict Value) (o : OptionSpec) : Judged p supplied o := by
  cases hgiven : Value.given? supplied o.name with
  | none => exact judged_of_not_given hgiven
  | some v =>
    by_cases hv : o.value.Admits v
    · exact judged_of_admits hgiven hv
    · exact judged_of_not_admits hgiven hv

/-- A given value that is admitted is what the option is settled with. -/
theorem settled_of_admits {v : Value} (hgiven : Gives supplied o v) (hv : o.value.Admits v) :
    settled supplied o = some v := by
  simp [settled, (given?_eq_some_iff v).mpr hgiven, (o.checkValue_eq_ok_iff v).mpr hv]

/-- Without one it is the default. -/
theorem settled_of_not_admits (h : ∀ v, Gives supplied o v → ¬ o.value.Admits v) :
    settled supplied o = o.value.default := by
  cases hgiven : Value.given? supplied o.name with
  | none => simp [settled, hgiven]
  | some v =>
    have hv := h v ((given?_eq_some_iff v).mp hgiven)
    rcases checkValue_eq_error hv with ⟨fault, -, hcheck⟩ | ⟨fault, -, -, hcheck⟩ <;>
      simp [settled, hgiven, hcheck]

/-- What is settled for an option is usable, if its default is. -/
theorem admits_of_settled (hdefault : ∀ d, o.value.default = some d → o.value.Admits d)
    {v : Value} (h : settled supplied o = some v) : o.value.Admits v := by
  by_cases hgood : ∃ w, Gives supplied o w ∧ o.value.Admits w
  · obtain ⟨w, hgiven, hw⟩ := hgood
    rw [settled_of_admits hgiven hw] at h
    cases h
    exact hw
  · have hnone : ∀ w, Gives supplied o w → ¬ o.value.Admits w :=
      fun w hgiven hw => hgood ⟨w, hgiven, hw⟩
    rw [settled_of_not_admits hnone] at h
    exact hdefault v h

/-! ## The pass over the options -/

/-- Writes what is settled for an option. -/
def write (supplied : Dict Value) (found : Options) (o : OptionSpec) : Options :=
  match settled supplied o with
  | some v => Dict.set found o.name v
  | none => found

/-- What is settled for some options, written over what was found before. -/
def written (supplied : Dict Value) (found : Options) (options : List OptionSpec) : Options :=
  options.foldl (write supplied) found

/-- The pass over the options ends at one that offends. -/
theorem checkOptions_cons_of_offends {e : ConfigError} (found : Options) (rest : List OptionSpec)
    (h : (checkOption p supplied o).1 = .error e) :
    (checkOptions p supplied found (o :: rest)).1 = .error e := by
  unfold checkOptions
  split
  · rename_i hcheck
    rw [hcheck] at h
    cases h
    rfl
  · rename_i hcheck
    rw [hcheck] at h
    cases h

/-- An option that is settled is written, its reports come first, and the pass goes on. -/
theorem checkOptions_cons_of_settled (found : Options) (rest : List OptionSpec)
    (h : checkOption p supplied o = (.ok (settled supplied o), owed p supplied o)) :
    checkOptions p supplied found (o :: rest) =
      ((checkOptions p supplied (write supplied found o) rest).1,
        owed p supplied o ++ (checkOptions p supplied (write supplied found o) rest).2) := by
  simp only [checkOptions, h]
  rfl

/-- The pass fails exactly with the error of the first option that offends. -/
theorem checkOptions_eq_error_iff (found : Options) (options : List OptionSpec) (e : ConfigError) :
    (checkOptions p supplied found options).1 = .error e ↔ FirstOffence p supplied options e := by
  induction options generalizing found with
  | nil =>
    constructor
    · intro h
      cases h
    · intro h
      cases h
  | cons o rest ih =>
    rcases judged p supplied o with ⟨e', hcheck, hoffends⟩ | ⟨hcheck, hfine⟩
    · -- this option offends: whatever comes later is not looked at
      rw [checkOptions_cons_of_offends found rest hcheck]
      constructor
      · intro h
        cases h
        exact .here hoffends
      · rintro (h | ⟨hfirst, -⟩)
        · rw [h.unique hoffends]
        · exact absurd hoffends (hfirst e')
    · -- it does not, and the rest decides
      rw [checkOptions_cons_of_settled found rest hcheck]
      constructor
      · intro h
        exact .later hfine ((ih _).mp h)
      · rintro (h | ⟨-, hrest⟩)
        · exact absurd h (hfine e)
        · exact (ih _).mpr hrest

/-- Where no option offends, the pass gives what is settled for each, and the reports that are owed
on each, in the order of the options. -/
theorem checkOptions_of_no_offence {options : List OptionSpec}
    (h : ∀ o ∈ options, ∀ e, ¬ Offends p supplied o e) (found : Options) :
    checkOptions p supplied found options =
      (.ok (written supplied found options), options.flatMap (owed p supplied)) := by
  induction options generalizing found with
  | nil => rfl
  | cons o rest ih =>
    have hrest := ih (fun x hx => h x (List.mem_cons_of_mem _ hx)) (write supplied found o)
    rcases judged p supplied o with ⟨e, -, hoffends⟩ | ⟨hcheck, -⟩
    · exact absurd hoffends (h o List.mem_cons_self e)
    · rw [checkOptions_cons_of_settled found rest hcheck, hrest]
      rfl

/-- Whatever the pass reports is reported on one of the options. -/
theorem exists_of_mem_checkOptions {found : Options} {options : List OptionSpec} {d : Diagnostic}
    (h : d ∈ (checkOptions p supplied found options).2) :
    ∃ o ∈ options, d ∈ (checkOption p supplied o).2 := by
  induction options generalizing found with
  | nil => cases h
  | cons o rest ih =>
    unfold checkOptions at h
    split at h
    · -- the option fails, and nothing is reported after it
      rename_i hcheck
      exact ⟨o, List.mem_cons_self, by rwa [hcheck]⟩
    · rename_i hcheck
      rcases List.mem_append.mp h with h | h
      · exact ⟨o, List.mem_cons_self, by rwa [hcheck]⟩
      · obtain ⟨x, hx, hd⟩ := ih h
        exact ⟨x, List.mem_cons_of_mem _ hx, hd⟩

/-- Where the pass succeeds, no option has offended. -/
theorem no_offence_of_ok {options : List OptionSpec} (found : Options) {r : Options}
    (h : (checkOptions p supplied found options).1 = .ok r) :
    ∀ o ∈ options, ∀ e, ¬ Offends p supplied o e := by
  induction options generalizing found with
  | nil => simp
  | cons o rest ih =>
    rcases judged p supplied o with ⟨e, hcheck, -⟩ | ⟨hcheck, hfine⟩
    · rw [checkOptions_cons_of_offends found rest hcheck] at h
      cases h
    · rw [checkOptions_cons_of_settled found rest hcheck] at h
      intro x hx
      rcases List.mem_cons.mp hx with rfl | hx
      · exact hfine
      · exact ih _ h x hx

/-! ## Looking up what is settled -/

/-- Settling an option leaves all others as they are. -/
theorem get?_write_of_ne {name : String} (found : Options) (h : name ≠ o.name) :
    Dict.get? (write supplied found o) name = Dict.get? found name := by
  unfold write
  split
  · exact Dict.get?_set_of_ne _ _ h
  · rfl

/-- What an option is settled with is found under its name. -/
theorem get?_write_self (found : Options) (h : Dict.get? found o.name = none) :
    Dict.get? (write supplied found o) o.name = settled supplied o := by
  unfold write
  split
  · rename_i hv
    rw [Dict.get?_set_self, hv]
  · rename_i hv
    rw [h, hv]

/-- Names that are not declared are never written. -/
theorem get?_written_of_notMem {name : String} {options : List OptionSpec}
    (h : name ∉ options.map (·.name)) (found : Options) :
    Dict.get? (written supplied found options) name = Dict.get? found name := by
  induction options generalizing found with
  | nil => rfl
  | cons o rest ih =>
    obtain ⟨hne, hrest⟩ := not_or.mp (fun hmem => h (List.mem_cons.mpr hmem))
    exact (ih hrest (write supplied found o)).trans (get?_write_of_ne found hne)

/-- Options that are declared once do not overwrite each other. -/
theorem get?_written {options : List OptionSpec} (hnodup : (options.map (·.name)).Nodup)
    {o : OptionSpec} (ho : o ∈ options) (found : Options)
    (hfound : Dict.get? found o.name = none) :
    Dict.get? (written supplied found options) o.name = settled supplied o := by
  induction options generalizing found with
  | nil => cases ho
  | cons x rest ih =>
    obtain ⟨hhead, htail⟩ := List.nodup_cons.mp hnodup
    rcases List.mem_cons.mp ho with rfl | ho
    · -- nothing later has the same name
      exact (get?_written_of_notMem hhead (write supplied found o)).trans
        (get?_write_self found hfound)
    · have hmem : o.name ∈ rest.map (·.name) := List.mem_map_of_mem ho
      have hne : o.name ≠ x.name := by
        intro heq
        rw [heq] at hmem
        exact hhead hmem
      exact ih htail ho (write supplied found x) ((get?_write_of_ne found hne).trans hfound)

/-! ## A scope -/

variable {c : Checker}

/-- Where no option offends, the check succeeds with all options settled, and reports what is owed
for each and the unknown keys. -/
theorem check_of_no_offence (h : ∀ o ∈ c.options, ∀ e, ¬ Offends c.place supplied o e) :
    c.check supplied = (.ok (written supplied [] c.options),
      c.options.flatMap (owed c.place supplied) ++ c.unknownKeys supplied) := by
  simp [check, checkOptions_of_no_offence h]

/-- The check fails with the first offence, and only with it. -/
theorem check_fst_eq_error_iff (e : ConfigError) :
    (c.check supplied).1 = .error e ↔ FirstOffence c.place supplied c.options e := by
  rw [← checkOptions_eq_error_iff []]
  unfold check
  split
  · rename_i h
    simp [h]
  · rename_i h
    simp [h]

/-- Where the check succeeds, no option has offended. -/
theorem no_offence_of_check_ok {r : Options} (h : (c.check supplied).1 = .ok r) :
    ∀ o ∈ c.options, ∀ e, ¬ Offends c.place supplied o e := by
  unfold check at h
  split at h
  · cases h
  · rename_i found reports hcheck
    exact no_offence_of_ok [] (r := found) (by rw [hcheck])

/-- Where the check succeeds, its result and its reports are those of settling every option. -/
theorem check_eq_of_ok {r : Options} (h : (c.check supplied).1 = .ok r) :
    r = written supplied [] c.options ∧
      (c.check supplied).2 =
        c.options.flatMap (owed c.place supplied) ++ c.unknownKeys supplied := by
  have hcheck := check_of_no_offence (no_offence_of_check_ok h)
  rw [hcheck] at h ⊢
  cases h
  exact ⟨rfl, rfl⟩

/-- The options of a scope are declared once, and their defaults are usable. -/
structure Consistent (c : Checker) : Prop where
  declaresOnce : (c.options.map (·.name)).Nodup
  admits_default : ∀ o ∈ c.options, ∀ d, o.value.default = some d → o.value.Admits d

/-- The result has each declared option as it was settled. -/
theorem get?_check {r : Options} (hc : c.Consistent) (h : (c.check supplied).1 = .ok r)
    {o : OptionSpec} (ho : o ∈ c.options) : Dict.get? r o.name = settled supplied o := by
  rw [(check_eq_of_ok h).1]
  exact get?_written hc.declaresOnce ho [] rfl

/-- Every value in the result is admitted by its option, defaults included. -/
theorem admits_of_get?_check {r : Options} (hc : c.Consistent)
    (h : (c.check supplied).1 = .ok r) {o : OptionSpec} (ho : o ∈ c.options) {v : Value}
    (hv : Dict.get? r o.name = some v) : o.value.Admits v := by
  rw [get?_check hc h ho] at hv
  exact admits_of_settled (hc.admits_default o ho) hv

/-- Nothing is left that no option declares. -/
theorem declared_of_mem_keys_check {r : Options} (h : (c.check supplied).1 = .ok r)
    {name : String} (hname : name ∈ Dict.keys r) : ∃ o ∈ c.options, o.name = name := by
  by_contra hnone
  have hmem : name ∉ c.options.map (·.name) := by
    intro hmem
    obtain ⟨o, ho, heq⟩ := List.mem_map.mp hmem
    exact hnone ⟨o, ho, heq⟩
  rw [(check_eq_of_ok h).1, Dict.mem_keys_iff, get?_written_of_notMem hmem []] at hname
  cases hname

/-- The reports on the keys that no option declares, in the order of the keys. -/
theorem unknownKeys_eq (c : Checker) (supplied : Dict Value) :
    c.unknownKeys supplied =
      ((Dict.keys supplied).filter fun key => ∀ o ∈ c.options, o.name ≠ key).map fun key =>
        Diagnostic.warning Code.unknownOption (c.place.key key)
          s!"unknown option `{key}` ignored" := by
  unfold unknownKeys
  congr 1
  apply List.filter_congr
  intro key _
  rw [Bool.eq_iff_iff]
  simp

/-- The checker of a part of a document. -/
def ofPlace (s : Schema) : Place → Checker
  | .initConfig => ofInitConfig s
  | .instance index => ofInstance s index

/-- In a checked schema each scope declares its options once, with defaults that are admitted. -/
theorem consistent_ofPlace {s : Schema} (h : s.check = .ok ()) (p : Place) :
    (ofPlace s p).Consistent := by
  cases p with
  | initConfig => exact ⟨s.declaresOnce_of_check h .initConfig,
      fun _ ho _ => s.admits_default_of_check h .initConfig ho⟩
  | «instance» index => exact ⟨s.declaresOnce_of_check h .instances,
      fun _ ho _ => s.admits_default_of_check h .instances ho⟩

@[simp] theorem place_ofPlace (s : Schema) (p : Place) : (ofPlace s p).place = p := by
  cases p <;> rfl

/-- No option fails the scope exactly when the required ones are given and, in an instance, each
given one is usable or has a default. -/
theorem no_offence_iff {options : List OptionSpec} :
    (∀ o ∈ options, ∀ e, ¬ Offends p supplied o e) ↔
      (∀ o ∈ options, o.required = true → ∃ v, Gives supplied o v) ∧
      (p ≠ .initConfig → ∀ o ∈ options, ∀ v, Gives supplied o v →
        o.value.Admits v ∨ o.value.default ≠ none) := by
  constructor
  · intro h
    refine ⟨?_, ?_⟩
    · -- else the option would be missing
      intro o ho hrequired
      by_contra hnone
      exact h o ho _ (.missing hrequired fun v hv => hnone ⟨v, hv⟩)
    · intro hplace o ho v hgiven
      -- else its value would be refused, for its type or for its range
      by_contra hbad
      obtain ⟨hv, hdefault⟩ := not_or.mp hbad
      cases p with
      | initConfig => exact hplace rfl
      | «instance» index =>
        rcases checkValue_eq_error hv with ⟨fault, htype, -⟩ | ⟨fault, htype, hallowed, -⟩
        · exact h o ho _ (.wrongType rfl hgiven (not_not.mp hdefault) htype)
        · exact h o ho _ (.notAllowed rfl hgiven (not_not.mp hdefault) htype hallowed)
  · rintro ⟨hrequired, hgiven⟩ o ho e (⟨hreq, hnone⟩ | ⟨hplace, hv, hdefault, htype⟩ |
      ⟨hplace, hv, hdefault, htype, hallowed⟩)
    · obtain ⟨v, hv⟩ := hrequired o ho hreq
      exact hnone v hv
    · rcases hgiven (by simp [hplace]) o ho _ hv with h | h
      · rw [h.1] at htype
        cases htype
      · exact h hdefault
    · rcases hgiven (by simp [hplace]) o ho _ hv with h | h
      · rw [h.2] at hallowed
        cases hallowed
      · exact h hdefault

/-- In an instance that passes, an option that has no default is as it was given. -/
theorem get?_check_of_no_default {r : Options} (hc : c.Consistent)
    (h : (c.check supplied).1 = .ok r) (hplace : c.place ≠ .initConfig) {o : OptionSpec}
    (ho : o ∈ c.options) (hdefault : o.value.default = none) :
    Dict.get? r o.name = Value.given? supplied o.name ∧
      ∀ v, Gives supplied o v → o.value.Admits v := by
  have hadmits : ∀ v, Gives supplied o v → o.value.Admits v := by
    intro v hv
    have hfine := (no_offence_iff.mp (no_offence_of_check_ok h)).2 hplace o ho v hv
    exact hfine.resolve_right (not_not.mpr hdefault)
  refine ⟨?_, hadmits⟩
  rw [get?_check hc h ho]
  cases hgiven : Value.given? supplied o.name with
  | none => simp [settled, hgiven, hdefault]
  | some v =>
    have hv := (given?_eq_some_iff v).mp hgiven
    exact settled_of_admits hv (hadmits v hv)

/-- Values that are all admitted are left as they are, with the defaults beside them, and nothing is
reported, if no option is deprecated. -/
theorem check_of_admitted (hc : c.Consistent) (hcurrent : ∀ o ∈ c.options, o.deprecated = none)
    (hrequired : ∀ o ∈ c.options, o.required = true → ∃ v, Dict.get? supplied o.name = some v)
    (hadmits : ∀ o ∈ c.options, ∀ v, Dict.get? supplied o.name = some v → o.value.Admits v)
    (hdeclared : ∀ name ∈ Dict.keys supplied, ∃ o ∈ c.options, o.name = name) :
    ∃ r, c.check supplied = (.ok r, []) ∧
      ∀ o ∈ c.options, Dict.get? r o.name = (Dict.get? supplied o.name).or o.value.default := by
  have hgives : ∀ o ∈ c.options, ∀ v, Dict.get? supplied o.name = some v → Gives supplied o v :=
    fun o ho v hv => ⟨hv, (hadmits o ho v hv).ne_null⟩
  have hfine : ∀ o ∈ c.options, ∀ e, ¬ Offends c.place supplied o e := by
    refine no_offence_iff.mpr ⟨?_, fun _ o ho v hv => Or.inl (hadmits o ho v hv.1)⟩
    intro o ho hreq
    obtain ⟨v, hv⟩ := hrequired o ho hreq
    exact ⟨v, hgives o ho v hv⟩
  have hreports : c.options.flatMap (owed c.place supplied) = [] := by
    refine List.flatMap_eq_nil_iff.mpr fun o ho => ?_
    cases hgiven : Value.given? supplied o.name with
    | none => simp [owed, hgiven]
    | some v =>
      have hv := hadmits o ho v ((given?_eq_some_iff v).mp hgiven).1
      simp [owed, hgiven, hcurrent o ho, (o.checkValue_eq_ok_iff v).mpr hv]
  have hknown : c.unknownKeys supplied = [] := by
    rw [unknownKeys_eq, List.map_eq_nil_iff, List.filter_eq_nil_iff]
    intro name hname
    obtain ⟨o, ho, heq⟩ := hdeclared name hname
    simpa using ⟨o, ho, heq⟩
  have hcheck := check_of_no_offence hfine
  rw [hreports, hknown] at hcheck
  refine ⟨_, hcheck, ?_⟩
  intro o ho
  rw [get?_written hc.declaresOnce ho [] rfl]
  cases hv : Dict.get? supplied o.name with
  | none =>
    refine settled_of_not_admits fun v hgiven => ?_
    rw [hgiven.1] at hv
    cases hv
  | some v => exact settled_of_admits (hgives o ho v hv) (hadmits o ho v hv)

/-- The contract of a check. It fails with the error of the first option that fails the scope, and
only then. Else each declared option has the given value if that is usable and its default if not,
nothing else is there, all that is there is usable, and the reports are those that are owed on the
options, in schema order, and then those on unknown keys. -/
theorem check_contract (s : Schema) (hs : s.check = .ok ()) (p : Place) (supplied : Dict Value) :
    let c := ofPlace s p
    ((∃ r, (c.check supplied).1 = .ok r) ↔
      (∀ o ∈ c.options, o.required = true → ∃ v, Gives supplied o v) ∧
      (p ≠ .initConfig → ∀ o ∈ c.options, ∀ v, Gives supplied o v →
        o.value.Admits v ∨ o.value.default ≠ none)) ∧
    (∀ e, (c.check supplied).1 = .error e ↔ FirstOffence p supplied c.options e) ∧
    ∀ r, (c.check supplied).1 = .ok r →
      (∀ o ∈ c.options, ∀ v, Gives supplied o v → o.value.Admits v →
        Dict.get? r o.name = some v) ∧
      (∀ o ∈ c.options, (∀ v, Gives supplied o v → ¬ o.value.Admits v) →
        Dict.get? r o.name = o.value.default) ∧
      (∀ name ∈ Dict.keys r, ∃ o ∈ c.options, o.name = name) ∧
      (∀ o ∈ c.options, ∀ v, Dict.get? r o.name = some v → o.value.Admits v) ∧
      (p ≠ .initConfig → ∀ o ∈ c.options, o.required = true → ∃ v, Dict.get? r o.name = some v) ∧
      (c.check supplied).2 = c.options.flatMap (owed p supplied) ++
        ((Dict.keys supplied).filter fun key => ∀ o ∈ c.options, o.name ≠ key).map fun key =>
          Diagnostic.warning Code.unknownOption (p.key key) s!"unknown option `{key}` ignored" := by
  intro c
  have hc : c.Consistent := consistent_ofPlace hs p
  have hplace : c.place = p := place_ofPlace s p
  refine ⟨?_, ?_, ?_⟩
  · rw [← no_offence_iff, ← hplace]
    exact ⟨fun ⟨r, hr⟩ => no_offence_of_check_ok hr,
      fun h => ⟨_, congrArg Prod.fst (check_of_no_offence h)⟩⟩
  · intro e
    rw [← hplace]
    exact check_fst_eq_error_iff e
  · -- a check that passes has settled each option apart from the others
    intro r hr
    have hfine := no_offence_iff.mp (hplace ▸ no_offence_of_check_ok hr)
    refine ⟨?_, ?_, fun _ => declared_of_mem_keys_check hr,
      fun _ ho _ => admits_of_get?_check hc hr ho, ?_, ?_⟩
    · intro o ho v hgiven hv
      rw [get?_check hc hr ho, settled_of_admits hgiven hv]
    · intro o ho hnone
      rw [get?_check hc hr ho, settled_of_not_admits hnone]
    · intro hinstance o ho hrequired
      obtain ⟨v, hgiven⟩ := hfine.1 o ho hrequired
      rw [get?_check hc hr ho]
      rcases hfine.2 hinstance o ho v hgiven with hv | hdefault
      · exact ⟨v, settled_of_admits hgiven hv⟩
      · -- a value that is given but not usable gives way to the default
        by_cases hv : o.value.Admits v
        · exact ⟨v, settled_of_admits hgiven hv⟩
        · obtain ⟨d, hd⟩ := Option.ne_none_iff_exists'.mp hdefault
          exact ⟨d, by rw [settled_of_not_admits fun w hw => hw.unique hgiven ▸ hv, hd]⟩
    · rw [(check_eq_of_ok hr).2, unknownKeys_eq, hplace]

/-- An instance with an authentication type that does not exist, `null` for one option and a key
that is unknown: the default stands in, `null` counts as not given, and two reports are owed. -/
theorem check_contract_unusable_auth_type :
    let supplied : Dict Value := [("auth_type", .string "kerberos"), ("tls_verify", .null),
      ("url", .string "http://one:8080"), ("zone", .int 1)]
    let c := ofPlace Schema.builtin (.instance 3)
    Schema.builtin.check = .ok () ∧ ∃ r, (c.check supplied).1 = .ok r ∧
      Dict.get? r "auth_type" = some (.string "basic") ∧
      (∀ o ∈ c.options, ∀ v, Dict.get? r o.name = some v → o.value.Admits v) ∧
      (c.check supplied).2.map (·.code) = [Code.invalidValue, Code.unknownOption] := by
  intro supplied c
  have hcheck : (c.check supplied).1 = .ok _ := rfl
  obtain ⟨-, -, hresult⟩ :=
    check_contract Schema.builtin Schema.check_builtin (.instance 3) supplied
  obtain ⟨-, -, -, hadmits, -, -⟩ := hresult _ hcheck
  exact ⟨Schema.check_builtin, _, hcheck, rfl, hadmits, rfl⟩

end ClusterMonitor.Checker

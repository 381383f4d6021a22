import ClusterMonitor.Proofs.Options.Contract
import ClusterMonitor.Template

/-!
# The values that a template shows

A template shows for each option its example, else its default, else a placeholder made of its name. A
default of an accepted schema is always usable. An example has been held against the type of its
option, but not against the allowed texts and the bounds, and a placeholder is a text whatever the
type is. So a shown value can be one that the validation of an instance refuses.

* `ValueSpec.admits_example_iff`, `ValueSpec.admits_text_iff` — when an example and a text are usable.
* `Template.admits_shownValue_iff` — when the shown value of an option is.
* `Template.requiredMembers` — the instance that the live lines of a template make.
* `Template.shown_usable_iff` — which shown values are usable, and when the shown instance is accepted.
-/

namespace ClusterMonitor

namespace ValueSpec

/-- An example of a specification without a fault has the declared type. -/
theorem checkType_example {s : ValueSpec} (h : s.fault? = none) {v : Value}
    (hv : s.example = some v) : s.checkType v = .ok () := by
  obtain ⟨-, -, -, -, -, htype, -⟩ := s.fault?_eq_none_iff.mp h
  rw [hv] at htype
  exact checkType_of_partFault?_eq_none htype

theorem admits_example_iff {s : ValueSpec} (h : s.fault? = none) {v : Value}
    (hv : s.example = some v) : s.Admits v ↔ s.checkAllowed v = .ok () :=
  ⟨fun hadmits => hadmits.2, fun hallowed => ⟨checkType_example h hv, hallowed⟩⟩

/-- A text is usable where a text is asked for, and is one of the listed ones if any are. -/
theorem admits_text_iff (s : ValueSpec) (text : String) :
    s.Admits (.string text) ↔ s.type = .string ∧ (s.allowed = [] ∨ text ∈ s.allowed) := by
  have hlisted : s.checkAllowed (.string text) = s.checkListed (.string text) := rfl
  unfold Admits
  rw [hlisted, checkListed_eq_ok_iff]
  cases htype : s.type <;> simp [checkType, htype, ValueType.accepts]

end ValueSpec

namespace Template

/-- The text that stands for the value of an option with neither example nor default. -/
def placeholder (o : OptionSpec) : String := s!"<{Unicode.toUpper o.name}>"

theorem admits_shownValue_iff {o : OptionSpec} (h : o.value.fault? = none) :
    o.value.Admits (shownValue o) ↔
      (∀ v, o.value.example = some v → o.value.checkAllowed v = .ok ()) ∧
      (o.value.example = none → o.value.default = none → o.value.type = .string ∧
        (o.value.allowed = [] ∨ placeholder o ∈ o.value.allowed)) := by
  cases hexample : o.value.example with
  | some v =>
    have hshown : shownValue o = v := by simp [shownValue, hexample]
    rw [hshown, ValueSpec.admits_example_iff h hexample]
    simp
  | none =>
    cases hdefault : o.value.default with
    | some v =>
      have hshown : shownValue o = v := by simp [shownValue, hexample, hdefault]
      rw [hshown]
      simpa using ValueSpec.admits_default h hdefault
    | none =>
      have hshown : shownValue o = .string (placeholder o) := by
        simp [shownValue, hexample, hdefault, placeholder]
      rw [hshown, ValueSpec.admits_text_iff]
      simp

/-- Nothing that is shown counts as left out. -/
theorem shownValue_ne_null {o : OptionSpec} (h : o.value.fault? = none) :
    shownValue o ≠ .null := by
  have hnull : o.value.checkType .null ≠ .ok () := by
    cases htype : o.value.type <;> simp [ValueSpec.checkType, htype, ValueType.accepts]
  intro hshown
  cases hexample : o.value.example with
  | some v =>
    have hv : v = .null := by simpa [shownValue, hexample] using hshown
    exact hnull (hv ▸ ValueSpec.checkType_example h hexample)
  | none =>
    cases hdefault : o.value.default with
    | some v =>
      have hv : v = .null := by simpa [shownValue, hexample, hdefault] using hshown
      exact (ValueSpec.admits_default h hdefault).ne_null hv
    | none => simp [shownValue, hexample, hdefault] at hshown

/-! ## The shown instance -/

/-- The members of the instance that the live lines of a template make, in the order of display. -/
def requiredMembers (s : Schema) : List (String × Value) :=
  ((s.optionsByPriority .instances).filter (·.required)).map fun o => (o.name, shownValue o)

theorem mem_requiredMembers {s : Schema} {m : String × Value} :
    m ∈ requiredMembers s ↔ ∃ o ∈ s.instances, o.required = true ∧ (o.name, shownValue o) = m := by
  simp [requiredMembers, Schema.optionsByPriority, Schema.options, and_assoc]

theorem nodup_keys_requiredMembers {s : Schema} (hs : s.check = .ok ()) :
    (Dict.keys (requiredMembers s)).Nodup := by
  have hperm : (s.optionsByPriority .instances).Perm (s.options .instances) :=
    List.mergeSort_perm _ _
  have hnames : ((s.optionsByPriority .instances).map (·.name)).Nodup :=
    (hperm.map (·.name)).nodup_iff.mpr (s.declaresOnce_of_check hs .instances)
  have hkeys : Dict.keys (requiredMembers s) =
      ((s.optionsByPriority .instances).filter (·.required)).map (·.name) := by
    simp [Dict.keys, requiredMembers, Function.comp_def]
  rw [hkeys]
  exact hnames.sublist (List.filter_sublist.map OptionSpec.name)

/-- The shown instance gives the required options their shown values, and gives nothing else. -/
theorem gives_requiredMembers_iff {s : Schema} (hs : s.check = .ok ()) {o : OptionSpec}
    (ho : o ∈ s.instances) (v : Value) :
    Checker.Gives (Dict.ofPairs (requiredMembers s)) o v ↔
      o.required = true ∧ v = shownValue o := by
  have hnodup := nodup_keys_requiredMembers hs
  have hfaults := (Schema.optionsFault?_eq_none (Schema.optionsFault?_of_check hs .instances)).2.2
  unfold Checker.Gives
  rw [Dict.get?_ofPairs_of_nodup hnodup]
  constructor
  · rintro ⟨hget, -⟩
    obtain ⟨x, hx, hrequired, heq⟩ := mem_requiredMembers.mp (Dict.mem_of_get?_eq_some hget)
    obtain ⟨hname, hvalue⟩ := Prod.mk.inj heq
    -- options of one name are one option
    have hsame : x = o :=
      List.inj_on_of_nodup_map (s.declaresOnce_of_check hs .instances) hx ho hname
    subst hsame
    exact ⟨hrequired, hvalue.symm⟩
  · rintro ⟨hrequired, rfl⟩
    have hmem : (o.name, shownValue o) ∈ requiredMembers s :=
      mem_requiredMembers.mpr ⟨o, ho, hrequired, rfl⟩
    exact ⟨Dict.get?_eq_some_of_mem hnodup hmem, shownValue_ne_null (hfaults o ho)⟩

/-- A shown value is usable unless it is an example that the option does not allow, or a placeholder
where no text, or only listed texts, may stand. The shown instance is accepted exactly when each
required option shows a usable value or has a default to fall back on. -/
theorem shown_usable_iff {s : Schema} (hs : s.check = .ok ()) :
    (∀ scope, ∀ o ∈ s.options scope, (o.value.Admits (shownValue o) ↔
      (∀ v, o.value.example = some v → o.value.checkAllowed v = .ok ()) ∧
      (o.value.example = none → o.value.default = none → o.value.type = .string ∧
        (o.value.allowed = [] ∨ s!"<{Unicode.toUpper o.name}>" ∈ o.value.allowed)))) ∧
    ∀ index,
      (∃ r, ((Checker.ofInstance s index).check (Dict.ofPairs (requiredMembers s))).1 = .ok r) ↔
        ∀ o ∈ s.instances, o.required = true →
          o.value.Admits (shownValue o) ∨ o.value.default ≠ none := by
  have hfaults (scope : OptionScope) :=
    (Schema.optionsFault?_eq_none (Schema.optionsFault?_of_check hs scope)).2.2
  refine ⟨fun scope o ho => admits_shownValue_iff (hfaults scope o ho), fun index => ?_⟩
  have hplace : (Checker.ofInstance s index).place ≠ .initConfig := nofun
  constructor
  · rintro ⟨r, hr⟩ o ho hrequired
    obtain ⟨-, hgiven⟩ := Checker.no_offence_iff.mp (Checker.no_offence_of_check_ok hr)
    exact hgiven hplace o ho _ ((gives_requiredMembers_iff hs ho _).mpr ⟨hrequired, rfl⟩)
  · intro husable
    have hfine : ∀ o ∈ s.instances, ∀ e, ¬ Checker.Offends (Checker.ofInstance s index).place
        (Dict.ofPairs (requiredMembers s)) o e := by
      refine Checker.no_offence_iff.mpr ⟨?_, ?_⟩
      · intro o ho hrequired
        exact ⟨shownValue o, (gives_requiredMembers_iff hs ho _).mpr ⟨hrequired, rfl⟩⟩
      · intro _ o ho v hv
        obtain ⟨hrequired, rfl⟩ := (gives_requiredMembers_iff hs ho v).mp hv
        exact husable o ho hrequired
    exact ⟨_, congrArg Prod.fst (Checker.check_of_no_offence (c := Checker.ofInstance s index) hfine)⟩

/-- The shown instance is accepted with an example that its option does not allow, since the default
stands in for it. -/
theorem shown_usable_iff_unlisted_example :
    let url : OptionSpec := { name := "url", required := true, value := { type := .string } }
    let auth : OptionSpec :=
      { name := "auth_type", required := true
        value :=
          { type := .string, «example» := some (.string "kerberos")
            default := some (.string "basic"), allowed := ["basic", "digest"] } }
    let s : Schema := { name := "s", instances := [auth, url] }
    s.check = .ok () ∧ ¬ auth.value.Admits (shownValue auth) ∧ url.value.Admits (shownValue url) ∧
      ∃ r, ((Checker.ofInstance s 0).check (Dict.ofPairs (requiredMembers s))).1 = .ok r := by
  intro url auth s
  have hs : s.check = .ok () := by
    unfold s auth url
    rfl
  obtain ⟨hshown, haccepted⟩ := shown_usable_iff hs
  have hauth : ¬ auth.value.Admits (shownValue auth) := by
    intro hadmits
    cases ((hshown .instances auth (by simp [s, Schema.options])).mp hadmits).1 _ rfl
  have hurl : url.value.Admits (shownValue url) :=
    (hshown .instances url (by simp [s, Schema.options])).mpr ⟨nofun, fun _ _ => ⟨rfl, Or.inl rfl⟩⟩
  refine ⟨hs, hauth, hurl, (haccepted 0).mpr ?_⟩
  intro o ho _
  rcases List.mem_pair.mp ho with rfl | rfl
  · exact Or.inr (by simp [auth])
  · exact Or.inl hurl

/-- A required integer without an example is shown as a text, which the validation of the instance
refuses. -/
theorem shown_placeholder_refused :
    let port : OptionSpec := { name := "port", required := true, value := { type := .integer } }
    let s : Schema := { name := "s", instances := [port] }
    s.check = .ok () ∧ shownValue port = .string "<PORT>" ∧
      port.value.checkType (shownValue port) = .error ⟨"integer", "string"⟩ ∧
      ((Checker.ofInstance s 0).check (Dict.ofPairs (requiredMembers s))).1 =
        .error (.typeMismatch "port" "integer" "string") := by
  intro port s
  have hs : s.check = .ok () := by
    unfold s port
    rfl
  have hshown : shownValue port = .string "<PORT>" := by
    have hname : placeholder port = "<PORT>" := by decide
    exact congrArg Value.string hname
  have hmembers : requiredMembers s = [("port", .string "<PORT>")] := by
    simp [requiredMembers, Schema.optionsByPriority, Schema.options, s, port, ← hshown]
  rw [hmembers, hshown]
  exact ⟨hs, rfl, rfl, rfl⟩

end Template

end ClusterMonitor

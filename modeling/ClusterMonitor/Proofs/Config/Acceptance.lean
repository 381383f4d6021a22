import ClusterMonitor.Proofs.Config.SilentParts
import ClusterMonitor.Proofs.Template.Shown

/-!
# Which instances are accepted

Under the built-in schema it can be told from an entry alone whether it is read as an instance. The
options that have a default never stand in the way; of the others each asks for its own kind of
value, the URL has to be there and to be read, and a user name and a password come together or not
at all.

* `ValueSpec.admits_duration_iff`, `ValueSpec.admits_texts_iff`, … — the values that an option
  without default asks for.
* `Instance.Acceptable` — what an entry has to be.
* `Checker.exists_check_instance_iff`, `Instance.exists_ofOptions_iff` — the two steps of reading an
  entry.
* `Instance.accepted_iff_acceptable` — exactly the acceptable entries are read.
* `Instance.credential_of_read` — the credential that an accepted instance has.
* `Instance.read_builtin_accepts_iff` — all of it in one statement, with what follows for the
  members that cannot make an entry fail.
-/

namespace ClusterMonitor

open Schema (builtin)

namespace Value

/-- A value that is written is given, unless it is null. -/
theorem given?_set_self (members : Dict Value) (key : String) {v : Value} (hv : v.isNull = false) :
    given? (Dict.set members key v) key = some v := by
  simp [given?, Dict.get?_set_self, hv]

/-- Writing one option does not change what is given for another. -/
theorem given?_set_of_ne {key other : String} (members : Dict Value) (v : Value)
    (hne : other ≠ key) : given? (Dict.set members key v) other = given? members other := by
  rw [given?, Dict.get?_set_of_ne members v hne, given?]

end Value

/-! ## Options without a default -/

namespace ValueSpec

variable {s items : ValueSpec} {v : Value}

/-- An option for a text admits just the texts. -/
theorem admits_textLike_iff {shown : String} :
    (Schema.textLike shown).Admits v ↔ ∃ text, v = .string text := by
  constructor
  · exact fun h => h.exists_string rfl
  · rintro ⟨text, rfl⟩
    exact Schema.admits_textLike shown text

/-- An option for a mapping admits just the objects. -/
theorem admits_mapping_iff (htype : s.type = .object) (hitems : s.items = none)
    (hallowed : s.allowed = []) : s.Admits v ↔ ∃ members, v = .object members := by
  constructor
  · exact fun h => h.exists_object htype
  · rintro ⟨members, rfl⟩
    constructor
    · simp [checkType, htype, hitems, ValueType.accepts]
    · simp [checkAllowed, checkListed, Value.asFloat?, hallowed]

/-- An option for texts admits just the lists of texts. -/
theorem admits_texts_iff (htype : s.type = .array) (hitems : s.items = some items)
    (hitem : items.type = .string) (hallowed : s.allowed = []) :
    s.Admits v ↔ ∃ texts, v = .ofStrings texts := by
  constructor
  · exact fun h => h.exists_strings htype hitems hitem
  · rintro ⟨texts, rfl⟩
    exact Schema.admits_ofStrings htype hitems hitem hallowed texts

/-- A duration is a number of seconds up to a day. -/
theorem admits_duration_iff {shown : Int} {default : Option Value} :
    (Schema.duration shown default).Admits v ↔
      ∃ x, v.asFloat? = some x ∧ x.isFinite = true ∧ ¬ x < 0.0 ∧ ¬ 86400.0 < x := by
  constructor
  · intro h
    obtain ⟨x, hx, -⟩ := h.exists_float rfl []
    have hrange : (Schema.duration shown default).checkRange x = .ok () := by
      simpa [checkAllowed, hx, Schema.duration, ValueType.isNumeric] using h.2
    obtain ⟨hfinite, hlow, hhigh⟩ := (checkRange_eq_ok_iff _ x).mp hrange
    exact ⟨x, hx, hfinite, hlow 0.0 rfl, hhigh 86400.0 rfl⟩
  · rintro ⟨x, hx, hfinite, hlow, hhigh⟩
    have hseconds := (Schema.admitsSeconds_of_bounds hfinite hlow hhigh shown default).2
    refine ⟨?_, ?_⟩
    · cases v with
      | int n => rfl
      | float y => rfl
      | _ => cases hx
    · simp only [checkAllowed, hx]
      exact hseconds

end ValueSpec

/-! ## The checker -/

/-- An instance passes the checker if the required options are given, and those without a default
are usable where they are given. -/
theorem Checker.exists_check_instance_iff (s : Schema) (index : Nat) (supplied : Dict Value) :
    (∃ r, ((ofInstance s index).check supplied).1 = .ok r) ↔
      (∀ o ∈ s.instances, o.required = true → ∃ v, Value.given? supplied o.name = some v) ∧
        ∀ o ∈ s.instances, o.value.default = none → ∀ v,
          Value.given? supplied o.name = some v → o.value.Admits v := by
  have hfine : (∃ r, ((ofInstance s index).check supplied).1 = .ok r) ↔
      ∀ o ∈ s.instances, ∀ e, ¬ Offends (.instance index) supplied o e :=
    ⟨fun ⟨_, hr⟩ => no_offence_of_check_ok hr,
      fun h => ⟨_, congrArg Prod.fst (check_of_no_offence (c := ofInstance s index) h)⟩⟩
  rw [hfine, no_offence_iff]
  simp only [given?_eq_some_iff]
  refine and_congr_right fun _ => ⟨fun h o ho hdefault v hv => ?_, fun h _ o ho v hv => ?_⟩
  · exact (h (by simp) o ho v hv).resolve_right (not_not.mpr hdefault)
  · by_cases hdefault : o.value.default = none
    · exact Or.inl (h o ho hdefault v hv)
    · exact Or.inr hdefault

namespace Instance

variable {index : Nat} {supplied supplied' : Dict Value} {o : Options}

/-! ## The two steps of reading an entry -/

/-- The entry with this index is read as an instance. -/
def Accepted (index : Nat) (v : Value) : Prop := ∃ i, (read builtin index v).1 = .ok i

/-- An entry is accepted if its options pass the check and make an instance. -/
theorem accepted_object_iff :
    Accepted index (.object supplied) ↔
      ∃ r, ((Checker.ofInstance builtin index).check supplied).1 = .ok r ∧
        ∃ i, (ofOptions r index).1 = .ok i := by
  constructor
  · rintro ⟨i, hi⟩
    obtain ⟨_, r, ⟨⟩, hcheck, hmade⟩ := read_eq_ok hi
    exact ⟨r, hcheck, i, hmade⟩
  · rintro ⟨r, hcheck, i, hmade⟩
    rcases hboth : (Checker.ofInstance builtin index).check supplied with ⟨result, reports⟩
    rw [hboth] at hcheck
    cases hcheck
    exact ⟨i, by simpa only [read, hboth] using hmade⟩

/-- A credential can be made of a user and a password, or of neither. -/
theorem exists_credentialOf_iff :
    (∃ c, credentialOf o = .ok c) ↔
      (o.string? "username" = none ∧ o.string? "password" = none) ∨
        ∃ username password, o.string? "username" = some username ∧
          o.string? "password" = some password := by
  unfold credentialOf
  cases o.string? "username" <;> cases o.string? "password" <;> simp

/-- Options make an instance if the URL and the credential are in order and the way to log in is
known. -/
theorem exists_ofOptions_iff :
    (∃ i, (ofOptions o index).1 = .ok i) ↔
      (∃ raw url, o.string? "url" = some raw ∧ readUrl raw = .ok url) ∧
        (∃ c, credentialOf o = .ok c) ∧ ∃ a, authTypeOf o = .ok a := by
  unfold ofOptions
  cases hraw : o.string? "url" with
  | none => simp
  | some raw =>
    cases hurl : readUrl raw with
    | error e => simp [hurl]
    | ok url =>
      cases hcredential : credentialOf o with
      | error e => simp [hurl]
      | ok c => cases hauth : authTypeOf o <;> simp [hurl, Except.map]

/-! ## Acceptable entries -/

/-- What the members of an entry have to be, where `null` counts as not given. Documents have no
numbers that are not finite. -/
structure Acceptable (supplied : Dict Value) : Prop where
  url : ∃ raw url, Value.given? supplied "url" = some (.string raw) ∧ readUrl raw = .ok url
  services : ∀ v, Value.given? supplied "services" = some v → ∃ members, v = .object members
  credential :
    (Value.given? supplied "username" = none ∧ Value.given? supplied "password" = none) ∨
      ∃ username password, Value.given? supplied "username" = some (.string username) ∧
        Value.given? supplied "password" = some (.string password)
  timeout : ∀ v, Value.given? supplied "timeout" = some v →
    ∃ x, v.asFloat? = some x ∧ x.isFinite = true ∧ ¬ x < 0.0 ∧ ¬ 86400.0 < x
  tags : ∀ v, Value.given? supplied "tags" = some v → ∃ texts, v = .ofStrings texts
  service : ∀ v, Value.given? supplied "service" = some v → ∃ text, v = .string text

/-- An option without a default is left as it is given, and is usable. -/
theorem kept_of_check {r : Options}
    (h : ((Checker.ofInstance builtin index).check supplied).1 = .ok r) :
    ∀ o ∈ Schema.builtinInstances, o.value.default = none →
      Dict.get? r o.name = Value.given? supplied o.name ∧
        ∀ v, Value.given? supplied o.name = some v → o.value.Admits v := by
  intro o ho hdefault
  have hc := Checker.consistent_ofPlace Schema.check_builtin (.instance index)
  obtain ⟨hget, hadmits⟩ := Checker.get?_check_of_no_default hc h (by simp) ho hdefault
  exact ⟨hget, fun v hv => hadmits v ((Checker.given?_eq_some_iff v).mp hv)⟩

/-- The way to log in is always known: the schema lists both of them, and has a default. -/
theorem exists_authTypeOf {r : Options}
    (h : ((Checker.ofInstance builtin index).check supplied).1 = .ok r) :
    ∃ a, authTypeOf r = .ok a := by
  have hc := Checker.consistent_ofPlace Schema.check_builtin (.instance index)
  have hadmits : ∀ o ∈ Schema.builtinInstances, ∀ v, Dict.get? r o.name = some v →
      o.value.Admits v := fun o ho v hv => Checker.admits_of_get?_check hc h ho hv
  simp only [Schema.builtinInstances, List.forall_mem_cons] at hadmits
  obtain ⟨-, -, -, -, hauth, -⟩ := hadmits
  unfold authTypeOf
  cases htext : r.string? "auth_type" with
  | none => exact ⟨.basic, rfl⟩
  | some text =>
    obtain ⟨v, hv, hstring⟩ := Option.bind_eq_some_iff.mp htext
    obtain ⟨text', rfl⟩ := (hauth v hv).exists_string rfl
    cases hstring
    have hlisted := ((ValueSpec.admits_text_iff _ text).mp (hauth _ hv)).2
    have hcases : text = "basic" ∨ text = "digest" := by simpa using hlisted
    rcases hcases with rfl | rfl
    · exact ⟨.basic, rfl⟩
    · exact ⟨.digest, rfl⟩

/-- A text that is kept is the text that was given. -/
theorem given?_eq_map_string? {r : Options} {name shown : String}
    (h : Dict.get? r name = Value.given? supplied name ∧
      ∀ v, Value.given? supplied name = some v → (Schema.textLike shown).Admits v) :
    Value.given? supplied name = (r.string? name).map .string := by
  obtain ⟨hget, hadmits⟩ := h
  rw [Options.string?, hget]
  cases hgiven : Value.given? supplied name with
  | none => rfl
  | some v =>
    obtain ⟨text, rfl⟩ := ValueSpec.admits_textLike_iff.mp (hadmits v hgiven)
    rfl

/-- The address and the two parts of a credential are kept as they are given. -/
theorem given?_text_of_check {r : Options}
    (h : ((Checker.ofInstance builtin index).check supplied).1 = .ok r) :
    ∀ name ∈ ["url", "username", "password"],
      Value.given? supplied name = (r.string? name).map .string := by
  have hkept := kept_of_check h
  simp only [Schema.builtinInstances, List.forall_mem_cons] at hkept
  obtain ⟨kurl, -, kusername, kpassword, -⟩ := hkept
  simp only [List.forall_mem_cons]
  exact ⟨given?_eq_map_string? (kurl rfl), given?_eq_map_string? (kusername rfl),
    given?_eq_map_string? (kpassword rfl), List.forall_mem_nil _⟩

/-- An accepted entry is acceptable. -/
theorem acceptable_of_accepted (h : Accepted index (.object supplied)) : Acceptable supplied := by
  obtain ⟨r, hcheck, hmade⟩ := accepted_object_iff.mp h
  obtain ⟨⟨raw, url, hraw, hread⟩, hcredential, -⟩ := exists_ofOptions_iff.mp hmade
  have htext := given?_text_of_check hcheck
  have hkept := kept_of_check hcheck
  simp only [Schema.builtinInstances, List.forall_mem_cons] at hkept
  obtain ⟨-, kservices, -, -, -, -, ktimeout, ktags, kservice, -⟩ := hkept
  exact
    { url := ⟨raw, url, by rw [htext "url" (by simp), hraw]; rfl, hread⟩
      services := fun v hv =>
        (ValueSpec.admits_mapping_iff rfl rfl rfl).mp ((kservices trivial).2 v hv)
      credential := by
        rw [htext "username" (by simp), htext "password" (by simp)]
        rcases exists_credentialOf_iff.mp hcredential with ⟨hu, hp⟩ | ⟨u, p, hu, hp⟩
        · exact Or.inl ⟨by rw [hu]; rfl, by rw [hp]; rfl⟩
        · exact Or.inr ⟨u, p, by rw [hu]; rfl, by rw [hp]; rfl⟩
      timeout := fun v hv => ValueSpec.admits_duration_iff.mp ((ktimeout rfl).2 v hv)
      tags := fun v hv =>
        (ValueSpec.admits_texts_iff rfl rfl rfl rfl).mp ((ktags trivial).2 v hv)
      service := fun v hv => ValueSpec.admits_textLike_iff.mp ((kservice rfl).2 v hv) }

/-- The checker has nothing against an acceptable entry. -/
theorem Acceptable.exists_check (h : Acceptable supplied) (index : Nat) :
    ∃ r, ((Checker.ofInstance builtin index).check supplied).1 = .ok r := by
  obtain ⟨raw, url, hraw, -⟩ := h.url
  -- of the two parts of a credential neither is anything but a text
  have hparts : (∀ v, Value.given? supplied "username" = some v → ∃ text, v = .string text) ∧
      ∀ v, Value.given? supplied "password" = some v → ∃ text, v = .string text := by
    rcases h.credential with ⟨hu, hp⟩ | ⟨u, p, hu, hp⟩
    · simp [hu, hp]
    · simp [hu, hp]
  refine (Checker.exists_check_instance_iff _ _ _).mpr ⟨?_, ?_⟩
  · change ∀ o ∈ Schema.builtinInstances, _
    simp [Schema.builtinInstances, hraw]
  · change ∀ o ∈ Schema.builtinInstances, _
    simp only [Schema.builtinInstances, List.forall_mem_cons]
    -- the options that are left out have a default
    refine ⟨fun _ v hv => ?_, fun _ v hv => ?_, fun _ v hv => ?_, fun _ v hv => ?_, by rintro ⟨⟩,
      by rintro ⟨⟩, fun _ v hv => ?_, fun _ v hv => ?_, fun _ v hv => ?_, by rintro ⟨⟩,
      by rintro ⟨⟩, List.forall_mem_nil _⟩
    · rw [hraw] at hv
      cases hv
      exact Schema.admits_textLike _ raw
    · exact (ValueSpec.admits_mapping_iff rfl rfl rfl).mpr (h.services v hv)
    · exact ValueSpec.admits_textLike_iff.mpr (hparts.1 v hv)
    · exact ValueSpec.admits_textLike_iff.mpr (hparts.2 v hv)
    · exact ValueSpec.admits_duration_iff.mpr (h.timeout v hv)
    · exact (ValueSpec.admits_texts_iff rfl rfl rfl rfl).mpr (h.tags v hv)
    · exact ValueSpec.admits_textLike_iff.mpr (h.service v hv)

/-- An acceptable entry is accepted. -/
theorem accepted_of_acceptable (h : Acceptable supplied) : Accepted index (.object supplied) := by
  obtain ⟨r, hcheck⟩ := h.exists_check index
  have htext := given?_text_of_check hcheck
  have hurl := htext "url" (by simp)
  have husername := htext "username" (by simp)
  have hpassword := htext "password" (by simp)
  obtain ⟨raw, url, hraw, hread⟩ := h.url
  refine accepted_object_iff.mpr ⟨r, hcheck, exists_ofOptions_iff.mpr
    ⟨⟨raw, url, ?_, hread⟩, exists_credentialOf_iff.mpr ?_, exists_authTypeOf hcheck⟩⟩
  · simpa [hraw, eq_comm] using hurl
  · rcases h.credential with ⟨hu, hp⟩ | ⟨u, p, hu, hp⟩
    · left
      simpa [hu, hp, eq_comm] using And.intro husername hpassword
    · right
      exact ⟨u, p, by simpa [hu, eq_comm] using husername, by simpa [hp, eq_comm] using hpassword⟩

theorem accepted_iff_acceptable : Accepted index (.object supplied) ↔ Acceptable supplied :=
  ⟨acceptable_of_accepted, accepted_of_acceptable⟩

/-- Apart from the services, an entry is as acceptable as one that gives the same. -/
theorem Acceptable.of_same (h : Acceptable supplied)
    (hsame : ∀ name ∈ ["url", "username", "password", "timeout", "tags", "service"],
      Value.given? supplied name = Value.given? supplied' name)
    (hservices : ∀ v, Value.given? supplied' "services" = some v → ∃ members, v = .object members) :
    Acceptable supplied' := by
  simp only [List.forall_mem_cons] at hsame
  obtain ⟨hurl, husername, hpassword, htimeout, htags, hservice, -⟩ := hsame
  exact
    { url := hurl ▸ h.url
      services := hservices
      credential := husername ▸ hpassword ▸ h.credential
      timeout := htimeout ▸ h.timeout
      tags := htags ▸ h.tags
      service := hservice ▸ h.service }

/-! ## Credentials -/

/-- A credential has the user and the password of the options. -/
theorem credentialOf_eq_some_iff {credential : Option Credential}
    (h : credentialOf o = .ok credential) (c : Credential) :
    credential = some c ↔
      o.string? "username" = some c.username ∧ o.string? "password" = some c.password := by
  rcases credentialOf_cases h with ⟨⟨u, p⟩, rfl, husername, hpassword⟩ | ⟨rfl, husername, -⟩
  · obtain ⟨u', p'⟩ := c
    simp [husername, hpassword]
  · simp [husername]

/-- An accepted instance has exactly the credential that is given. -/
theorem credential_of_read {i : Instance} (h : (read builtin index (.object supplied)).1 = .ok i)
    (c : Credential) :
    i.credential = some c ↔ Value.given? supplied "username" = some (.string c.username) ∧
      Value.given? supplied "password" = some (.string c.password) := by
  obtain ⟨_, r, ⟨⟩, hcheck, hmade⟩ := read_eq_ok h
  obtain ⟨-, -, -, hcredential⟩ := ofOptions_eq_ok hmade
  have htext := given?_text_of_check hcheck
  rw [credentialOf_eq_some_iff hcredential, htext "username" (by simp), htext "password" (by simp)]
  simp

/-- An entry is read as an instance exactly if it is an object that is acceptable. So nothing
depends on the other options and on unknown keys, nor on what the mapping of services holds; and an
instance has a credential exactly if both parts of it are given. -/
theorem read_builtin_accepts_iff (index : Nat) :
    (∀ v, Accepted index v ↔ ∃ supplied, v = .object supplied ∧ Acceptable supplied) ∧
    (∀ supplied supplied' : Dict Value,
      (∀ name ∈ ["url", "services", "username", "password", "timeout", "tags", "service"],
        Value.given? supplied name = Value.given? supplied' name) →
      (Accepted index (.object supplied) ↔ Accepted index (.object supplied'))) ∧
    (∀ (supplied services services' : Dict Value),
      Accepted index (.object (Dict.set supplied "services" (.object services))) ↔
        Accepted index (.object (Dict.set supplied "services" (.object services')))) ∧
    ∀ supplied i, (read builtin index (.object supplied)).1 = .ok i → ∀ c,
      (i.credential = some c ↔ Value.given? supplied "username" = some (.string c.username) ∧
        Value.given? supplied "password" = some (.string c.password)) := by
  refine ⟨?_, ?_, ?_, fun supplied i hi c => credential_of_read hi c⟩
  · intro v
    constructor
    · rintro ⟨i, hi⟩
      obtain ⟨supplied, -, rfl, -, -⟩ := read_eq_ok hi
      exact ⟨supplied, rfl, acceptable_of_accepted ⟨i, hi⟩⟩
    · rintro ⟨supplied, rfl, h⟩
      exact accepted_of_acceptable h
  · -- acceptability is a matter of these options only
    intro supplied supplied' hsame
    have hother : ∀ a b : Dict Value,
        (∀ name ∈ ["url", "services", "username", "password", "timeout", "tags", "service"],
          Value.given? a name = Value.given? b name) → Acceptable a → Acceptable b := by
      intro a b hab ha
      refine ha.of_same (fun name hname => hab name ?_) fun v hv => ?_
      · simp only [List.mem_cons] at hname ⊢
        tauto
      · exact ha.services v ((hab "services" (by simp)).trans hv)
    rw [accepted_iff_acceptable, accepted_iff_acceptable]
    exact ⟨hother _ _ hsame, hother _ _ fun name hname => (hsame name hname).symm⟩
  · -- of the services it is a matter of whether they are a mapping
    intro supplied services services'
    have hother : ∀ a b : Dict Value,
        Acceptable (Dict.set supplied "services" (.object a)) →
          Acceptable (Dict.set supplied "services" (.object b)) := by
      intro a b ha
      refine ha.of_same (fun name hname => ?_) fun v hv => ?_
      · have hne : name ≠ "services" := by
          rintro rfl
          simp at hname
        rw [Value.given?_set_of_ne _ _ hne, Value.given?_set_of_ne _ _ hne]
      · rw [Value.given?_set_self _ _ rfl] at hv
        exact ⟨b, (Option.some.inj hv).symm⟩
    rw [accepted_iff_acceptable, accepted_iff_acceptable]
    exact ⟨hother _ _, hother _ _⟩

/-- Every option with a default has an unusable value, one key is unknown and a service is a number:
the entry is read like the one without them, and still needs the user name. -/
theorem read_builtin_accepts_iff_unusable_values :
    let plain : Dict Value := [("password", .string "p"), ("services", .object []),
      ("timeout", .float 86400.0), ("url", .string "http://[::1]:8080"), ("username", .string "u")]
    let odd : Dict Value := [("auth_type", .int 7), ("empty_default_hostname", .string "no"),
      ("min_collection_interval", .int (-1)), ("password", .string "p"),
      ("services", .object [("HDFS", .int 1)]), ("timeout", .float 86400.0),
      ("tls_verify", .array []), ("url", .string "http://[::1]:8080"), ("username", .string "u"),
      ("zone", .null)]
    Accepted 3 (.object plain) ∧
      (∃ i, (read builtin 3 (.object odd)).1 = .ok i ∧ i.credential = some ⟨"u", "p"⟩) ∧
      ¬ Accepted 3 (.object (Dict.set odd "username" .null)) := by
  intro plain odd
  obtain ⟨hiff, hsame, hservices, hcredential⟩ := read_builtin_accepts_iff 3
  have hplain : Accepted 3 (.object plain) := by
    refine (hiff _).mpr ⟨plain, rfl, ⟨_, _, rfl, rfl⟩, ?_, Or.inr ⟨"u", "p", rfl, rfl⟩, ?_,
      by rintro v ⟨⟩, by rintro v ⟨⟩⟩
    · rintro v ⟨⟩
      exact ⟨[], rfl⟩
    · rintro v ⟨⟩
      exact ⟨86400.0, rfl, by decide, by decide, by decide⟩
  have hemptied : Accepted 3 (.object (Dict.set odd "services" (.object []))) := by
    refine (hsame plain _ ?_).mp hplain
    simp only [List.forall_mem_cons]
    exact ⟨rfl, rfl, rfl, rfl, rfl, rfl, rfl, List.forall_mem_nil _⟩
  have hodd : Accepted 3 (.object odd) := (hservices odd [] [("HDFS", .int 1)]).mp hemptied
  obtain ⟨i, hi⟩ := hodd
  refine ⟨hplain, ⟨i, hi, (hcredential odd i hi ⟨"u", "p"⟩).mpr ⟨rfl, rfl⟩⟩, ?_⟩
  intro haccepted
  obtain ⟨_, ⟨⟩, hacceptable⟩ := (hiff _).mp haccepted
  rcases hacceptable.credential with ⟨-, hnone⟩ | ⟨u, -, hsome, -⟩
  · cases hnone
  · cases hsome

end Instance

end ClusterMonitor

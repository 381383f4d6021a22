import ClusterMonitor.Instance
import ClusterMonitor.Proofs.Schema.Builtin
import ClusterMonitor.Proofs.Whitelist.RoundTrip

/-!
# The shared section and instances through documents

The shared section and each valid instance are read again from their own document forms, under the
built-in schema. What is read has numbers that the schema admits and headers that are not blank;
that is what makes the checker accept the document form value by value, without a report.

* `InitSection.Sound`, `Instance.Sound` — what holds of all that is read.
* `InitSection.read_toValue`, `Instance.read_toValue` — what is read back.
-/

namespace ClusterMonitor

open Schema (builtin)

/-! ## Options of one kind -/

namespace Options

variable {o : Options} {name : String}

/-- A flag is read as it was written. -/
theorem bool?_eq {b : Bool} (h : Dict.get? o name = some (.bool b)) : o.bool? name = some b := by
  rw [bool?, h]
  rfl

/-- A text is read as it was written, or found to be missing. -/
theorem string?_eq {v : Option String} (h : Dict.get? o name = v.map .string) :
    o.string? name = v := by
  rw [string?, h]
  cases v <;> rfl

/-- A number is read as it was written, or found to be missing. -/
theorem float?_eq {v : Option Float} (h : Dict.get? o name = v.map .float) :
    o.float? name = v := by
  rw [float?, h]
  cases v <;> rfl

/-- A list of texts that is left out when empty is read as it was. -/
theorem strings_eq {texts : List String}
    (h : Dict.get? o name = if texts.isEmpty then none else some (.ofStrings texts)) :
    o.strings name = texts := by
  rw [strings, h]
  cases texts with
  | nil => rfl
  | cons text rest =>
    change ((text :: rest).map Value.string).filterMap Value.asString? = text :: rest
    rw [List.filterMap_map]
    exact List.filterMap_some

end Options

/-! ## The shared section -/

namespace InitSection

/-- The timeout is one that the schema admits. -/
def Sound (s : InitSection) : Prop := Schema.AdmitsSeconds s.timeout

theorem sound_default : Sound {} :=
  Schema.admitsSeconds_of_bounds (by decide) (by decide) (by decide)

/-- A section is sound if its timeout was admitted. -/
theorem sound_ofOptions {o : Options}
    (ho : ∀ v, Dict.get? o "timeout" = some v → (Schema.duration 10 (some (.int 10))).Admits v) :
    Sound (ofOptions o) := by
  cases hx : o.float? "timeout" with
  | none => simpa [Sound, ofOptions, hx] using sound_default
  | some x => simpa [Sound, ofOptions, hx] using Schema.admitsSeconds_of_float? ho hx

/-- Whatever is read, the result is a sound section. -/
theorem sound_read (section? : Option Value) : (read builtin section?).1.Sound := by
  have hc := Checker.consistent_ofPlace Schema.check_builtin .initConfig
  rcases hcheck : (Checker.ofInitConfig builtin).check (supplied section?).1 with ⟨e | r, reports⟩
  · simpa only [read, hcheck] using sound_default
  · have hok := congrArg Prod.fst hcheck
    have hadmits : ∀ o ∈ Schema.builtinInitConfig, ∀ v, Dict.get? r o.name = some v →
        o.value.Admits v := fun o ho v hv => Checker.admits_of_get?_check hc hok ho hv
    simp only [Schema.builtinInitConfig, List.forall_mem_cons] at hadmits
    obtain ⟨-, -, -, htimeout, -⟩ := hadmits
    simpa only [read, hcheck] using sound_ofOptions htimeout

/-- The members of the document form. -/
def members (s : InitSection) : Dict Value :=
  [("collect_service_metrics", .bool s.collectMetrics),
    ("collect_service_status", .bool s.collectStatus), ("timeout", .ofFloat s.timeout)] ++
    Dict.part "service" (s.service.map .string)

theorem toValue_eq (s : InitSection) : s.toValue = .ofPairs s.members := by
  simp only [toValue, members, Dict.toList_map_pair]

/-- No member comes twice, and each has the name of an option. -/
theorem keys_members (s : InitSection) :
    (Dict.keys s.members).Sublist
      ["collect_service_metrics", "collect_service_status", "timeout", "service"] := by
  rw [members, Dict.keys_append]
  exact (List.Sublist.refl _).append (Dict.keys_part_sublist _ _)

/-- Each member holds its field. -/
theorem get?_members (s : InitSection) :
    Dict.get? s.members "collect_service_metrics" = some (.bool s.collectMetrics) ∧
    Dict.get? s.members "collect_service_status" = some (.bool s.collectStatus) ∧
    Dict.get? s.members "service" = s.service.map .string ∧
    Dict.get? s.members "timeout" = some (.ofFloat s.timeout) := by
  simp [members, Dict.get?, Dict.get?_part]

/-- The members of a sound section are admitted by the options of the built-in schema. -/
theorem admits_members {s : InitSection} (h : s.Sound) :
    ∀ o ∈ Schema.builtinInitConfig, ∀ v, Dict.get? s.members o.name = some v →
      o.value.Admits v := by
  obtain ⟨hmetrics, hstatus, hservice, htimeout⟩ := s.get?_members
  rw [Schema.AdmitsSeconds.ofFloat_eq h] at htimeout
  simp only [Schema.builtinInitConfig, List.forall_mem_cons, hmetrics, hstatus, hservice, htimeout]
  refine ⟨?_, ?_, ?_, ?_, by simp⟩
  · rintro v ⟨⟩
    exact Schema.admits_toggle _ _
  · rintro v ⟨⟩
    exact Schema.admits_toggle _ _
  · intro v hv
    exact Schema.admits_textLike_of_map hv
  · rintro v ⟨⟩
    exact h _ _

/-- A check of them settles every option as it stands in the section, without a report. -/
theorem check_members {s : InitSection} (h : s.Sound) :
    ∃ r, (Checker.ofInitConfig builtin).check (Dict.ofPairs s.members) = (.ok r, []) ∧
      ofOptions r = s := by
  have hdeclared : Dict.keys s.members ⊆ Schema.builtinInitConfig.map (·.name) :=
    List.Subset.trans s.keys_members.subset (by decide)
  have hrequired : ∀ o ∈ Schema.builtinInitConfig, o.required = true →
      ∃ v, Dict.get? s.members o.name = some v := by
    simp [Schema.builtinInitConfig]
  obtain ⟨r, hcheck, hr⟩ := Schema.check_builtin_members (p := .initConfig)
    (s.keys_members.nodup (by decide)) hdeclared hrequired (admits_members h)
  refine ⟨r, hcheck, ?_⟩
  change ∀ o ∈ Schema.builtinInitConfig, _ at hr
  obtain ⟨hmetrics, hstatus, hservice, htimeout⟩ := s.get?_members
  rw [Schema.AdmitsSeconds.ofFloat_eq h] at htimeout
  simp only [Schema.builtinInitConfig, List.forall_mem_cons, hmetrics, hstatus, hservice, htimeout,
    Option.some_or] at hr
  obtain ⟨rmetrics, rstatus, rservice, rtimeout, -⟩ := hr
  -- the service is the only option that may be absent, and it has no default
  rw [ofOptions, Options.bool?_eq rmetrics, Options.bool?_eq rstatus,
    Options.string?_eq (rservice.trans Option.or_none),
    Options.float?_eq (v := some s.timeout) rtimeout]
  rfl

/-- A sound section is read back from its document form. -/
theorem read_toValue {s : InitSection} (h : s.Sound) :
    read builtin (some s.toValue) = (s, []) := by
  obtain ⟨r, hcheck, hr⟩ := check_members h
  have hsupplied : supplied (some s.toValue) = (Dict.ofPairs s.members, []) := by
    rw [toValue_eq]
    rfl
  simp [read, hsupplied, hcheck, hr]

end InitSection

/-! ## Instances -/

/-- The URL is read from its own text. -/
def Url.ReadsBack (u : Url) : Prop := ofText? u.text = .ok u

namespace Instance

/-- The numbers are ones that the schema admits, and no listed header is blank. -/
structure Sound (i : Instance) : Prop where
  noneBlank : ∀ w, i.services.whitelist? = some w → w.NoneBlank
  timeout : ∀ t, i.timeout = some t → Schema.AdmitsSeconds t
  interval : Schema.AdmitsSeconds i.minCollectionInterval

theorem admitsSeconds_defaultInterval : Schema.AdmitsSeconds defaultInterval :=
  Schema.admitsSeconds_of_bounds (by decide) (by decide) (by decide)

/-- What the options of a valid instance come from, and what they were made into. -/
theorem read_eq_ok {s : Schema} {index : Nat} {v : Value} {i : Instance}
    (h : (read s index v).1 = .ok i) :
    ∃ supplied options, v = .object supplied ∧
      ((Checker.ofInstance s index).check supplied).1 = .ok options ∧
      (ofOptions options index).1 = .ok i := by
  cases v with
  | object supplied =>
    rcases hcheck : (Checker.ofInstance s index).check supplied with ⟨e | options, reports⟩
    · simp only [read, hcheck] at h
      cases h
    · simp only [read, hcheck] at h
      exact ⟨supplied, options, rfl, congrArg Prod.fst hcheck, h⟩
  | _ => cases h

/-- A user name comes with a password, and a password with a user name. -/
theorem credentialOf_cases {o : Options} {credential : Option Credential}
    (h : credentialOf o = .ok credential) :
    (∃ c, credential = some c ∧ o.string? "username" = some c.username ∧
        o.string? "password" = some c.password) ∨
      (credential = none ∧ o.string? "username" = none ∧ o.string? "password" = none) := by
  unfold credentialOf at h
  split at h
  · rename_i username password husername hpassword
    exact Or.inl ⟨⟨username, password⟩, (Except.ok.inj h).symm, husername, hpassword⟩
  · cases h
  · cases h
  · rename_i husername hpassword
    exact Or.inr ⟨(Except.ok.inj h).symm, husername, hpassword⟩

/-- The fields of an instance that options are made into. -/
theorem ofOptions_eq_ok {o : Options} {index : Nat} {i : Instance}
    (h : (ofOptions o index).1 = .ok i) :
    i.services = (ServiceSelection.read index (Dict.get? o "services")).1 ∧
      i.timeout = o.float? "timeout" ∧
      i.minCollectionInterval = (o.float? "min_collection_interval").getD defaultInterval ∧
      credentialOf o = .ok i.credential := by
  unfold ofOptions at h
  split at h
  · cases h
  · split at h
    · cases h
    · cases h
    · rename_i hcredential
      obtain ⟨authType, -, rfl⟩ := Decode.map_eq_ok_iff.mp h
      exact ⟨rfl, rfl, rfl, hcredential⟩

/-- An instance that was read is sound. -/
theorem sound_of_read {index : Nat} {v : Value} {i : Instance}
    (h : (read builtin index v).1 = .ok i) : i.Sound := by
  obtain ⟨supplied, o, -, hcheck, hmade⟩ := read_eq_ok h
  obtain ⟨hservices, htimeout, hinterval, -⟩ := ofOptions_eq_ok hmade
  have hc := Checker.consistent_ofPlace Schema.check_builtin (.instance index)
  have hadmits : ∀ x ∈ Schema.builtinInstances, ∀ v, Dict.get? o x.name = some v →
      x.value.Admits v := fun x hx v hv => Checker.admits_of_get?_check hc hcheck hx hv
  simp only [Schema.builtinInstances, List.forall_mem_cons] at hadmits
  obtain ⟨-, -, -, -, -, -, atimeout, -, -, ainterval, -⟩ := hadmits
  refine ⟨?_, ?_, ?_⟩
  · intro w hw
    rw [hservices] at hw
    exact ServiceSelection.noneBlank_read hw
  · intro t ht
    rw [htimeout] at ht
    exact Schema.admitsSeconds_of_float? atimeout ht
  · rw [hinterval]
    cases ht : o.float? "min_collection_interval" with
    | none => exact admitsSeconds_defaultInterval
    | some t => exact Schema.admitsSeconds_of_float? ainterval ht

/-- The members of the document form. -/
def members (i : Instance) : Dict Value :=
  [("url", Value.string i.url.text)] ++
    Dict.part "services" (i.services.whitelist?.map Whitelist.toValue) ++
    (Dict.part "username" (i.credential.map fun c => .string c.username) ++
      Dict.part "password" (i.credential.map fun c => .string c.password)) ++
    [("auth_type", .string i.authType.text), ("tls_verify", .bool i.tlsVerify)] ++
    Dict.part "timeout" (i.timeout.map .ofFloat) ++
    Dict.part "tags" (if i.tags.isEmpty then none else some (.ofStrings i.tags)) ++
    Dict.part "service" (i.service.map .string) ++
    [("min_collection_interval", .ofFloat i.minCollectionInterval),
      ("empty_default_hostname", .bool i.emptyDefaultHostname)]

/-- The document form is made of the members. -/
theorem toValue_eq (i : Instance) : i.toValue = .ofPairs i.members := by
  simp only [toValue, members, Dict.toList_map_pair, Dict.ite_pair]
  cases i.credential <;> rfl

/-- No member comes twice, and each has the name of an option. -/
theorem keys_members (i : Instance) :
    (Dict.keys i.members).Sublist (Schema.builtinInstances.map (·.name)) := by
  simp only [members, Dict.keys_append]
  have hpart (key : String) (v : Option Value) := Dict.keys_part_sublist key v
  exact (((((((List.Sublist.refl _).append (hpart _ _)).append
    ((hpart _ _).append (hpart _ _))).append (List.Sublist.refl _)).append (hpart _ _)).append
    (hpart _ _)).append (hpart _ _)).append (List.Sublist.refl _)

/-- Each member holds its field; the credential is spread over two of them. -/
theorem get?_members {i : Instance} (h : i.Sound) :
    Dict.get? i.members "url" = some (.string i.url.text) ∧
    Dict.get? i.members "services" = i.services.whitelist?.map Whitelist.toValue ∧
    Dict.get? i.members "username" = i.credential.map (fun c => .string c.username) ∧
    Dict.get? i.members "password" = i.credential.map (fun c => .string c.password) ∧
    Dict.get? i.members "auth_type" = some (.string i.authType.text) ∧
    Dict.get? i.members "tls_verify" = some (.bool i.tlsVerify) ∧
    Dict.get? i.members "timeout" = i.timeout.map .float ∧
    Dict.get? i.members "tags" =
      (if i.tags.isEmpty then none else some (.ofStrings i.tags)) ∧
    Dict.get? i.members "service" = i.service.map .string ∧
    Dict.get? i.members "min_collection_interval" = some (.float i.minCollectionInterval) ∧
    Dict.get? i.members "empty_default_hostname" = some (.bool i.emptyDefaultHostname) := by
  have htimeout : i.timeout.map Value.ofFloat = i.timeout.map .float := by
    cases ht : i.timeout with
    | none => rfl
    | some t => simp [(h.timeout t ht).ofFloat_eq]
  simp [members, Dict.get?_append, Dict.get?, Dict.get?_part, htimeout, h.interval.ofFloat_eq]

/-- The members of a sound instance are admitted by the options of the built-in schema. -/
theorem admits_members {i : Instance} (h : i.Sound) :
    ∀ o ∈ Schema.builtinInstances, ∀ v, Dict.get? i.members o.name = some v →
      o.value.Admits v := by
  obtain ⟨hurl, hservices, husername, hpassword, hauth, htls, htimeout, htags, hservice, hinterval,
    hhostname⟩ := get?_members h
  simp only [Schema.builtinInstances, List.forall_mem_cons, hurl, hservices, husername, hpassword,
    hauth, htls, htimeout, htags, hservice, hinterval, hhostname]
  refine ⟨?_, ?_, ?_, ?_, ?_, ?_, ?_, ?_, ?_, ?_, ?_, by simp⟩
  · rintro v ⟨⟩
    exact Schema.admits_textLike _ _
  · intro v hv
    obtain ⟨w, -, rfl⟩ := Option.map_eq_some_iff.mp hv
    exact ⟨rfl, rfl⟩
  · intro v hv
    exact Schema.admits_textLike_of_map hv
  · intro v hv
    exact Schema.admits_textLike_of_map hv
  · rintro v ⟨⟩
    cases i.authType <;> exact ⟨rfl, rfl⟩
  · rintro v ⟨⟩
    exact Schema.admits_toggle _ _
  · intro v hv
    obtain ⟨t, ht, rfl⟩ := Option.map_eq_some_iff.mp hv
    exact h.timeout t ht _ _
  · intro v hv
    split at hv
    · cases hv
    · cases hv
      exact Schema.admits_ofStrings rfl rfl rfl rfl _
  · intro v hv
    exact Schema.admits_textLike_of_map hv
  · rintro v ⟨⟩
    exact h.interval _ _
  · rintro v ⟨⟩
    exact Schema.admits_toggle _ _

/-- A check of them succeeds without a report; options that have no member take their defaults. -/
theorem check_members {i : Instance} (h : i.Sound) (index : Nat) :
    ∃ r, (Checker.ofInstance builtin index).check (Dict.ofPairs i.members) = (.ok r, []) ∧
      ∀ o ∈ Schema.builtinInstances,
        Dict.get? r o.name = (Dict.get? i.members o.name).or o.value.default := by
  have hrequired : ∀ o ∈ Schema.builtinInstances, o.required = true →
      ∃ v, Dict.get? i.members o.name = some v := by
    simp [Schema.builtinInstances, (get?_members h).1]
  exact Schema.check_builtin_members (p := .instance index) (i.keys_members.nodup (by decide))
    i.keys_members.subset hrequired (admits_members h)

/-- The instance is made again of its own members and the defaults of the others. -/
theorem ofOptions_of_members {i : Instance} (h : i.Sound) (hurl : i.url.ReadsBack)
    (index : Nat) {r : Options}
    (hr : ∀ o ∈ Schema.builtinInstances,
      Dict.get? r o.name = (Dict.get? i.members o.name).or o.value.default) :
    ofOptions r index = (.ok i, []) := by
  obtain ⟨murl, mservices, musername, mpassword, mauth, mtls, mtimeout, mtags, mservice,
    minterval, mhostname⟩ := get?_members h
  simp only [Schema.builtinInstances, List.forall_mem_cons, murl, mservices, musername, mpassword,
    mauth, mtls, mtimeout, mtags, mservice, minterval, mhostname, Option.some_or] at hr
  obtain ⟨rurl, rservices, rusername, rpassword, rauth, rtls, rtimeout, rtags, rservice,
    rinterval, rhostname, -⟩ := hr
  -- only what may be absent has no default, so that absent options stay absent
  have hreadUrl : readUrl i.url.text = .ok i.url := by
    rw [readUrl, hurl]
  have hcredential : credentialOf r = .ok i.credential := by
    cases hc : i.credential with
    | none =>
      rw [hc] at rusername rpassword
      rw [credentialOf, Options.string?_eq (v := none) rusername,
        Options.string?_eq (v := none) rpassword]
    | some c =>
      rw [hc] at rusername rpassword
      rw [credentialOf, Options.string?_eq (v := some c.username) rusername,
        Options.string?_eq (v := some c.password) rpassword]
  have hauth : authTypeOf r = .ok i.authType := by
    rw [authTypeOf, Options.string?_eq (v := some i.authType.text) rauth]
    cases i.authType <;> rfl
  have hservices : ServiceSelection.read index (Dict.get? r "services") = (i.services, []) := by
    rw [rservices]
    exact (congrArg _ Option.or_none).trans (ServiceSelection.read_toValue h.noneBlank index)
  have htext := Options.string?_eq (v := some i.url.text) rurl
  simp only [ofOptions, htext, hreadUrl, hcredential, hservices, hauth, Options.bool?_eq rtls,
    Options.float?_eq (rtimeout.trans Option.or_none),
    Options.strings_eq (rtags.trans Option.or_none),
    Options.string?_eq (rservice.trans Option.or_none),
    Options.float?_eq (v := some i.minCollectionInterval) rinterval, Options.bool?_eq rhostname]
  rfl

/-- An instance is read again from its document form, at any place, if its URL is. -/
theorem read_toValue {i : Instance} (h : i.Sound) (hurl : i.url.ReadsBack) (index : Nat) :
    read builtin index i.toValue = (.ok i, []) := by
  obtain ⟨r, hcheck, hr⟩ := check_members h index
  have hmade := ofOptions_of_members h hurl index hr
  have hvalue : i.toValue = .object (Dict.ofPairs i.members) := i.toValue_eq
  simp only [read, hvalue, hcheck, hmade]
  rfl

end Instance

end ClusterMonitor

import ClusterMonitor.Proofs.Config.Parts
import ClusterMonitor.Proofs.Config.Shown
import ClusterMonitor.Proofs.Options.SharedSection
import Mathlib.Data.Set.List

/-!
# Parts without a report

Where checking options or reading a whitelist leaves no report, nothing has been dropped: the document
form shows all that was given.

* `Checker.get?_of_silent` — each given option is declared, usable, and kept.
* `InitSection.shownBy_toValue`, `Whitelist.shownBy_toValue`, `Instance.shownBy_toValue` — the parts
  of a document that are read without a report.
-/

namespace ClusterMonitor

open Schema (builtin)

/-! ## Values of one type -/

namespace ValueSpec.Admits

variable {s : ValueSpec} {v : Value}

/-- An admitted flag is a flag. -/
theorem exists_bool (h : s.Admits v) (htype : s.type = .boolean) : ∃ b, v = .bool b := by
  have haccepts := h.accepts
  rw [htype] at haccepts
  cases v with
  | bool b => exact ⟨b, rfl⟩
  | _ => cases haccepts

/-- An admitted text is a text. -/
theorem exists_string (h : s.Admits v) (htype : s.type = .string) : ∃ text, v = .string text := by
  have haccepts := h.accepts
  rw [htype] at haccepts
  cases v with
  | string text => exact ⟨text, rfl⟩
  | _ => cases haccepts

/-- A number is shown as the float that it stands for. -/
theorem exists_float (h : s.Admits v) (htype : s.type = .number) (place : List Step) :
    ∃ x, v.asFloat? = some x ∧ ShownBy place v (.float x) := by
  have haccepts := h.accepts
  rw [htype] at haccepts
  cases v with
  | int n => exact ⟨Float.ofInt n, rfl, ShownBy.number place n⟩
  | float x => exact ⟨x, rfl, ShownBy.refl place _⟩
  | _ => cases haccepts

/-- An admitted mapping is an object. -/
theorem exists_object (h : s.Admits v) (htype : s.type = .object) :
    ∃ members, v = .object members := by
  have haccepts := h.accepts
  rw [htype] at haccepts
  cases v with
  | object members => exact ⟨members, rfl⟩
  | _ => cases haccepts

/-- A list whose items are to be texts. -/
theorem exists_strings {items : ValueSpec} (h : s.Admits v) (htype : s.type = .array)
    (hitems : s.items = some items) (hitem : items.type = .string) :
    ∃ texts, v = .ofStrings texts := by
  obtain ⟨haccepts, hgood⟩ := (s.checkType_eq_ok_iff v).mp h.1
  rw [htype] at haccepts
  cases v with
  | array elements =>
    have htexts : elements ∈ Set.range (List.map Value.string) := by
      rw [Set.range_list_map]
      intro e he
      have hstring := hgood items elements hitems rfl e he
      rw [hitem] at hstring
      cases e with
      | string text => exact ⟨text, rfl⟩
      | _ => cases hstring
    obtain ⟨texts, rfl⟩ := htexts
    exact ⟨texts, rfl⟩
  | _ => cases haccepts

end ValueSpec.Admits

/-! ## Options -/

namespace Checker

variable {p : Place} {supplied : Dict Value} {o : OptionSpec}

/-- Of a given option that is unusable there is always a report. -/
theorem admits_of_owed_eq_nil {v : Value} (h : owed p supplied o = []) (hv : Gives supplied o v) :
    o.value.Admits v := by
  by_contra hbad
  have hgiven := (given?_eq_some_iff v).mpr hv
  rcases checkValue_eq_error hbad with ⟨fault, -, hcheck⟩ | ⟨fault, -, -, hcheck⟩ <;>
    cases hdefault : o.value.default <;> simp [owed, hgiven, hcheck, hdefault] at h

/-- Without a report, each value that is given is that of a declared option, is usable, and is
kept. -/
theorem get?_of_silent {c : Checker} (hc : c.Consistent) {r : Options}
    (h : c.check supplied = (.ok r, [])) {key : String} {v : Value}
    (hv : Dict.get? supplied key = some v) (hne : v.isEmpty = false) :
    ∃ o ∈ c.options, o.name = key ∧ o.value.Admits v ∧ Dict.get? r o.name = some v := by
  have hok : (c.check supplied).1 = .ok r := by rw [h]
  have hreports : c.options.flatMap (owed c.place supplied) ++ c.unknownKeys supplied = [] := by
    rw [← (check_eq_of_ok hok).2, h]
  obtain ⟨howed, hunknown⟩ := List.append_eq_nil_iff.mp hreports
  -- a key without an option would be reported
  have hdeclared : ∃ o ∈ c.options, o.name = key := by
    rw [unknownKeys_eq, List.map_eq_nil_iff, List.filter_eq_nil_iff] at hunknown
    have hkey : key ∈ Dict.keys supplied := by
      rw [Dict.mem_keys_iff, hv]
      rfl
    simpa using hunknown key hkey
  obtain ⟨o, ho, rfl⟩ := hdeclared
  have hgives : Gives supplied o v := by
    refine ⟨hv, ?_⟩
    rintro rfl
    cases hne
  have hadmits := admits_of_owed_eq_nil (List.flatMap_eq_nil_iff.mp howed o ho) hgives
  exact ⟨o, ho, rfl, hadmits, by rw [get?_check hc hok ho, settled_of_admits hgives hadmits]⟩

end Checker

/-! ## The shared section -/

namespace InitSection

/-- A shared section that is read without a report is an object, if it is not empty. -/
theorem exists_object_of_silent {s : Schema} {v : Value} (h : (read s (some v)).2 = [])
    (hne : v.isEmpty = false) : ∃ supplied, v = .object supplied := by
  cases v with
  | object supplied => exact ⟨supplied, rfl⟩
  | null => cases hne
  | _ =>
    -- a section of any other type is reported
    unfold read at h
    split at h
    rename_i hsupplied
    cases hsupplied
    split at h <;> simp at h

/-- Its options pass the check without a report. -/
theorem check_of_silent {s : Schema} {supplied : Dict Value}
    (h : (read s (some (.object supplied))).2 = []) :
    ∃ r, (Checker.ofInitConfig s).check supplied = (.ok r, []) ∧
      (read s (some (.object supplied))).1 = ofOptions r := by
  rcases hcheck : (Checker.ofInitConfig s).check supplied with ⟨e | r, reports⟩
  · simp [read, InitSection.supplied, hcheck] at h
  · have hreports : reports = [] := by simpa [read, InitSection.supplied, hcheck] using h
    exact ⟨r, by rw [hreports], by simp [read, InitSection.supplied, hcheck]⟩

/-- A section that is read without a report shows all that was given. -/
theorem shownBy_toValue {supplied : Dict Value}
    (h : (read builtin (some (.object supplied))).2 = []) (place : List Step) :
    ShownBy place (.object supplied) (read builtin (some (.object supplied))).1.toValue := by
  have hsound := sound_read (some (.object supplied))
  obtain ⟨r, hcheck, hread⟩ := check_of_silent h
  rw [hread] at hsound ⊢
  have hc := Checker.consistent_ofPlace Schema.check_builtin .initConfig
  obtain ⟨hmetrics, hstatus, hservice, htimeout⟩ := get?_members (ofOptions r)
  rw [Schema.AdmitsSeconds.ofFloat_eq hsound] at htimeout
  rw [toValue_eq]
  refine ShownBy.object fun key v hv hne => ?_
  rw [Dict.get?_ofPairs_of_nodup ((keys_members _).nodup (by decide))]
  obtain ⟨o, ho, rfl, hadmits, hr⟩ := Checker.get?_of_silent hc hcheck hv hne
  -- one case for each option of the section, in the order of the schema
  change o ∈ Schema.builtinInitConfig at ho
  simp only [Schema.builtinInitConfig, List.mem_cons, List.not_mem_nil, or_false] at ho
  rcases ho with rfl | rfl | rfl | rfl
  · obtain ⟨b, rfl⟩ := hadmits.exists_bool rfl
    have hfield := (takesFrom_ofOptions hr).collectMetrics rfl
    exact ⟨_, hmetrics, hfield ▸ ShownBy.refl _ _⟩
  · obtain ⟨b, rfl⟩ := hadmits.exists_bool rfl
    have hfield := (takesFrom_ofOptions hr).collectStatus rfl
    exact ⟨_, hstatus, hfield ▸ ShownBy.refl _ _⟩
  · obtain ⟨text, rfl⟩ := hadmits.exists_string rfl
    have hfield := (takesFrom_ofOptions hr).service rfl
    rw [hfield] at hservice
    exact ⟨_, hservice, ShownBy.refl _ _⟩
  · obtain ⟨x, hx, hshown⟩ := hadmits.exists_float rfl (place ++ [.key "timeout"])
    have hfield := (takesFrom_ofOptions hr).timeout rfl
    rw [hx] at hfield
    rw [hfield] at htimeout
    exact ⟨_, htimeout, hshown⟩

end InitSection

/-! ## Whitelists -/

namespace Whitelist

/-- Without a report, each component is listed with the headers that were given. -/
theorem get?_readComponents_of_silent {index : Nat} {service : String} {members : Dict Value}
    (h : (readComponents index service members).2 = []) {component : String} {v : Value}
    (hv : Dict.get? members component = some v) :
    ∃ headers, Dict.get? (readComponents index service members).1 component = some headers ∧
      v = .ofStrings headers := by
  induction members with
  | nil => cases hv
  | cons m rest ih =>
    obtain ⟨key, w⟩ := m
    cases hheaders : headersOf w with
    | error fault => simp [readComponents, hheaders] at h
    | ok headers =>
      simp only [readComponents, hheaders] at h ⊢
      by_cases hkey : key = component
      · rw [Dict.get?, if_pos hkey] at hv ⊢
        cases hv
        exact ⟨headers, rfl, ((headersOf_eq_ok_iff _ headers).mp hheaders).1⟩
      · rw [Dict.get?, if_neg hkey] at hv ⊢
        exact ih h hv

/-- The components of a service that is read without a report are shown. -/
theorem shownBy_componentsValue {index : Nat} {service : String} {v : Value}
    (h : (readService index service v).2 = []) (place : List Step) :
    ∃ components, (readService index service v).1 = some components ∧
      ShownBy place v (componentsValue components) := by
  cases v with
  | object members =>
    refine ⟨_, rfl, ShownBy.object fun component w hw _ => ?_⟩
    obtain ⟨headers, hheaders, rfl⟩ := get?_readComponents_of_silent h hw
    refine ⟨.ofStrings headers, ?_, ShownBy.refl _ _⟩
    exact (Dict.get?_mapEntries (fun _ => Value.ofStrings) _ component).trans
      (congrArg (Option.map Value.ofStrings) hheaders)
  | null => exact ⟨[], rfl, ShownBy.of_isEmpty rfl _⟩
  | _ => cases h

/-- Without a report, each service is listed and shows what was given for it. -/
theorem get?_read_of_silent {index : Nat} {services : Dict Value}
    (h : (read index services).2 = []) (place : List Step) {service : String} {v : Value}
    (hv : Dict.get? services service = some v) :
    ∃ components, Dict.get? (read index services).1 service = some components ∧
      ShownBy place v (componentsValue components) := by
  induction services with
  | nil => cases hv
  | cons m rest ih =>
    obtain ⟨key, w⟩ := m
    have hreports : (readService index key w).2 ++ (read index rest).2 = [] := by
      rw [← h]
      cases hlisted : (readService index key w).1 <;> simp [read, hlisted]
    obtain ⟨hservice, hrest⟩ := List.append_eq_nil_iff.mp hreports
    obtain ⟨components, hlisted, hshown⟩ := shownBy_componentsValue hservice place
    have hread : (read index ((key, w) :: rest)).1 = (key, components) :: (read index rest).1 := by
      simp [read, hlisted]
    rw [hread]
    by_cases hkey : key = service
    · rw [Dict.get?, if_pos hkey] at hv ⊢
      cases hv
      exact ⟨components, rfl, hshown⟩
    · rw [Dict.get?, if_neg hkey] at hv ⊢
      exact ih hrest hv

/-- A whitelist that is read without a report shows all services with their components and
headers. -/
theorem shownBy_toValue {index : Nat} {services : Dict Value}
    (h : (read index services).2 = []) (place : List Step) :
    ShownBy place (.object services) (read index services).1.toValue := by
  refine ShownBy.object fun service v hv _ => ?_
  obtain ⟨components, hlisted, hshown⟩ := get?_read_of_silent h (place ++ [.key service]) hv
  refine ⟨componentsValue components, ?_, hshown⟩
  exact (Dict.get?_mapEntries (fun _ => componentsValue) _ service).trans
    (congrArg (Option.map componentsValue) hlisted)

end Whitelist

/-! ## Instances -/

namespace Instance

/-- What an instance is made of, where nothing is to be reported. -/
structure MadeOf (o : Options) (index : Nat) (i : Instance) : Prop where
  url : ∃ raw, o.string? "url" = some raw ∧ Url.ofText? raw = .ok i.url
  services : ServiceSelection.read index (Dict.get? o "services") = (i.services, [])
  credential : credentialOf o = .ok i.credential
  authType : authTypeOf o = .ok i.authType
  tlsVerify : i.tlsVerify = (o.bool? "tls_verify").getD true
  timeout : i.timeout = o.float? "timeout"
  tags : i.tags = o.strings "tags"
  service : i.service = o.string? "service"
  interval : i.minCollectionInterval = (o.float? "min_collection_interval").getD defaultInterval
  hostname : i.emptyDefaultHostname = (o.bool? "empty_default_hostname").getD false

/-- An instance is made of its options, field by field. -/
theorem madeOf_of_ofOptions {o : Options} {index : Nat} {i : Instance}
    (h : ofOptions o index = (.ok i, [])) : MadeOf o index i := by
  unfold ofOptions at h
  split at h
  · cases h
  · rename_i raw hraw
    split at h
    · cases h
    · cases h
    · rename_i url credential hurl hcredential
      obtain ⟨hmade, hreports⟩ := Prod.mk.inj h
      obtain ⟨authType, hauth, rfl⟩ := Decode.map_eq_ok_iff.mp hmade
      have htext : Url.ofText? raw = .ok url := by
        unfold readUrl at hurl
        split at hurl
        · rename_i hok
          cases hurl
          exact hok
        · cases hurl
      exact
        { url := ⟨raw, hraw, htext⟩
          services := Prod.ext rfl hreports
          credential := hcredential
          authType := hauth
          tlsVerify := rfl
          timeout := rfl
          tags := rfl
          service := rfl
          interval := rfl
          hostname := rfl }

/-- An entry that is read without a report. -/
theorem read_of_silent {s : Schema} {index : Nat} {v : Value} {i : Instance}
    (h : read s index v = (.ok i, [])) :
    ∃ supplied r, v = .object supplied ∧
      (Checker.ofInstance s index).check supplied = (.ok r, []) ∧ MadeOf r index i := by
  cases v with
  | object supplied =>
    rcases hcheck : (Checker.ofInstance s index).check supplied with ⟨e | r, reports⟩
    · simp only [read, hcheck] at h
      cases h
    · simp only [read, hcheck] at h
      obtain ⟨hmade, hreports⟩ := Prod.mk.inj h
      obtain ⟨rfl, hlater⟩ := List.append_eq_nil_iff.mp hreports
      exact ⟨supplied, r, rfl, hcheck, madeOf_of_ofOptions (Prod.ext hmade hlater)⟩
  | _ => cases h

namespace MadeOf

variable {o : Options} {index : Nat} {i : Instance}

/-- The type of authentication is shown as it was given. -/
theorem authType_text (h : MadeOf o index i) {text : String}
    (htext : o.string? "auth_type" = some text) : i.authType.text = text := by
  have hauth := h.authType
  rw [authTypeOf, htext] at hauth
  simp only [AuthType.ofText] at hauth
  split at hauth
  · rename_i hbasic
    rw [← Except.ok.inj hauth, hbasic]
    rfl
  · split at hauth
    · rename_i hdigest
      rw [← Except.ok.inj hauth, hdigest]
      rfl
    · cases hauth

/-- The services are those of the whitelist that was read, without a report. -/
theorem services_eq (h : MadeOf o index i) {services : Dict Value}
    (hservices : Dict.get? o "services" = some (.object services)) :
    i.services = .listed (Whitelist.read index services).1 ∧
      (Whitelist.read index services).2 = [] := by
  have hread := h.services
  rw [hservices] at hread
  obtain ⟨hlisted, hreports⟩ := Prod.mk.inj hread
  exact ⟨hlisted.symm, hreports⟩

end MadeOf

/-- An instance that is read without a report shows all that was given in its entry. -/
theorem shownBy_toValue {index : Nat} {v : Value} {i : Instance}
    (h : read builtin index v = (.ok i, [])) :
    ShownBy [.key "instances", .item index] v i.toValue := by
  have hsound : i.Sound := sound_of_read (congrArg Prod.fst h)
  obtain ⟨supplied, r, rfl, hcheck, hmade⟩ := read_of_silent h
  have hc := Checker.consistent_ofPlace Schema.check_builtin (.instance index)
  obtain ⟨murl, mservices, musername, mpassword, mauth, mtls, mtimeout, mtags, mservice,
    minterval, mhostname⟩ := get?_members hsound
  rw [toValue_eq]
  refine ShownBy.object fun key v hv hne => ?_
  rw [Dict.get?_ofPairs_of_nodup (i.keys_members.nodup (by decide))]
  obtain ⟨o, ho, rfl, hadmits, hr⟩ := Checker.get?_of_silent hc hcheck hv hne
  -- one case for each option of an instance, in the order of the schema
  change o ∈ Schema.builtinInstances at ho
  simp only [Schema.builtinInstances, List.mem_cons, List.not_mem_nil, or_false] at ho
  rcases ho with rfl | rfl | rfl | rfl | rfl | rfl | rfl | rfl | rfl | rfl | rfl
  · obtain ⟨text, rfl⟩ := hadmits.exists_string rfl
    obtain ⟨raw, hraw, hurl⟩ := hmade.url
    have htext : r.string? "url" = some text := Options.string?_eq (v := some text) hr
    rw [htext] at hraw
    cases hraw
    exact ⟨_, murl, ShownBy.url index hurl⟩
  · obtain ⟨services, rfl⟩ := hadmits.exists_object rfl
    obtain ⟨hlisted, hreports⟩ := hmade.services_eq hr
    rw [hlisted] at mservices
    exact ⟨_, mservices, Whitelist.shownBy_toValue hreports _⟩
  · obtain ⟨text, rfl⟩ := hadmits.exists_string rfl
    have htext : r.string? "username" = some text := Options.string?_eq (v := some text) hr
    -- a user name alone would have failed the instance
    rcases credentialOf_cases hmade.credential with
      ⟨c, hcredential, husername, -⟩ | ⟨-, hnone, -⟩
    · rw [htext] at husername
      rw [hcredential] at musername
      cases husername
      exact ⟨_, musername, ShownBy.refl _ _⟩
    · rw [htext] at hnone
      cases hnone
  · obtain ⟨text, rfl⟩ := hadmits.exists_string rfl
    have htext : r.string? "password" = some text := Options.string?_eq (v := some text) hr
    rcases credentialOf_cases hmade.credential with
      ⟨c, hcredential, -, hpassword⟩ | ⟨-, -, hnone⟩
    · rw [htext] at hpassword
      rw [hcredential] at mpassword
      cases hpassword
      exact ⟨_, mpassword, ShownBy.refl _ _⟩
    · rw [htext] at hnone
      cases hnone
  · obtain ⟨text, rfl⟩ := hadmits.exists_string rfl
    have htext := hmade.authType_text (Options.string?_eq (v := some text) hr)
    rw [htext] at mauth
    exact ⟨_, mauth, ShownBy.refl _ _⟩
  · obtain ⟨b, rfl⟩ := hadmits.exists_bool rfl
    rw [hmade.tlsVerify, Options.bool?_eq hr] at mtls
    exact ⟨_, mtls, ShownBy.refl _ _⟩
  · obtain ⟨x, hx, hshown⟩ := hadmits.exists_float rfl _
    rw [hmade.timeout, Options.float?, hr, Option.bind_some, hx] at mtimeout
    exact ⟨_, mtimeout, hshown⟩
  · obtain ⟨texts, rfl⟩ := hadmits.exists_strings rfl rfl rfl
    have hsome : texts.isEmpty = false := by
      cases texts with
      | nil => cases hne
      | cons text rest => rfl
    have htexts : r.strings "tags" = texts := Options.strings_eq (by rw [hsome]; exact hr)
    rw [hmade.tags, htexts, hsome] at mtags
    exact ⟨_, mtags, ShownBy.refl _ _⟩
  · obtain ⟨text, rfl⟩ := hadmits.exists_string rfl
    rw [hmade.service, Options.string?_eq (v := some text) hr] at mservice
    exact ⟨_, mservice, ShownBy.refl _ _⟩
  · obtain ⟨x, hx, hshown⟩ := hadmits.exists_float rfl _
    rw [hmade.interval, Options.float?, hr, Option.bind_some, hx] at minterval
    exact ⟨_, minterval, hshown⟩
  · obtain ⟨b, rfl⟩ := hadmits.exists_bool rfl
    rw [hmade.hostname, Options.bool?_eq hr] at mhostname
    exact ⟨_, mhostname, ShownBy.refl _ _⟩

end Instance

end ClusterMonitor

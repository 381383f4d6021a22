import ClusterMonitor.Proofs.Whitelist.Reading

/-!
# Subtree by subtree

A whitelist is read one service and one component at a time. What is well formed is listed, what is
not gets one report, and no subtree has a say in what becomes of another.

* `Whitelist.headersFault?` — what is wrong with a value as a list of headers.
* `Whitelist.owedOnService`, `Whitelist.owedOnComponent` — the reports on one subtree.
* `Whitelist.read_snd` — the reports on a whole mapping, in the order of its keys.
* `Whitelist.reportsOn` — the reports on some of the subtrees.
* `Whitelist.read_keeps_wellShaped` — what is listed and what is reported, and that both are matters
  of each subtree alone.
-/

namespace ClusterMonitor.Whitelist

/-! ## What is wrong with a list of headers -/

/-- The item is a text with a character that is not blank. -/
def isHeader : Value → Bool
  | .string text => text.toList.any fun c => !Unicode.isBlank c
  | _ => false

/-- What is wrong with an item that is no header. -/
def itemFault : Value → WhitelistFault
  | .string _ => .blankHeader
  | item => .headerNotString item.describe

/-- What is wrong with a value as a list of headers. Of its items the first bad one is told. -/
def headersFault? : Value → Option WhitelistFault
  | .array items => (items.find? fun item => !isHeader item).map itemFault
  | v => some (.headersNotSequence v.describe)

theorem isHeader_string (text : String) : isHeader (.string text) = !Unicode.isBlankText text := by
  rw [isHeader, Unicode.isBlankText, List.not_all_eq_any_not]

/-- An item that is a header is taken as one. -/
theorem headerOf_of_isHeader {item : Value} (h : isHeader item = true) :
    ∃ header, headerOf item = .ok header := by
  cases item with
  | string text =>
    rw [isHeader_string, Bool.not_eq_true'] at h
    exact ⟨text, by simp [headerOf, h]⟩
  | _ => cases h

/-- Any other item is a fault of its own kind. -/
theorem headerOf_of_not_isHeader {item : Value} (h : isHeader item = false) :
    headerOf item = .error (itemFault item) := by
  cases item with
  | string text =>
    rw [isHeader_string, Bool.not_eq_false'] at h
    simp [headerOf, h, itemFault]
  | _ => rfl

/-- A value is read as headers unless there is something wrong with it, which is then the error. -/
theorem headersOf_cases (v : Value) :
    (headersFault? v = none ∧ ∃ headers, headersOf v = .ok headers) ∨
      ∃ fault, headersFault? v = some fault ∧ headersOf v = .error fault := by
  cases v with
  | array items =>
    simp only [headersFault?, headersOf, Option.map_eq_none_iff, Option.map_eq_some_iff]
    induction items with
    | nil => exact Or.inl ⟨rfl, [], rfl⟩
    | cons item rest ih =>
      rw [List.mapM_cons]
      cases hitem : isHeader item with
      | false =>
        -- this item is the first bad one
        right
        exact ⟨itemFault item, ⟨item, by simp [hitem], rfl⟩,
          by rw [headerOf_of_not_isHeader hitem]; rfl⟩
      | true =>
        obtain ⟨header, hheader⟩ := headerOf_of_isHeader hitem
        rw [hheader, List.find?_cons_of_neg (by simp [hitem])]
        rcases ih with ⟨hnone, headers, hheaders⟩ | ⟨fault, hsome, herror⟩
        · exact Or.inl ⟨hnone, header :: headers, by rw [hheaders]; rfl⟩
        · exact Or.inr ⟨fault, hsome, by rw [herror]; rfl⟩
  | _ => exact Or.inr ⟨_, rfl, rfl⟩

/-! ## Reports -/

/-- The error on a subtree that is left out. -/
def subtreeError (index : Nat) (service : String) (component : Option String)
    (fault : WhitelistFault) : Diagnostic where
  code := Code.malformedWhitelist
  severity := .error
  scope := .subtree index service component
  message := (ConfigError.malformedWhitelist service component fault.message).message

/-- The reports on a component: one if its headers are not well formed. -/
def owedOnComponent (index : Nat) (service : String) (m : String × Value) : List Diagnostic :=
  (headersFault? m.2).toList.map (subtreeError index service (some m.1))

/-- The reports on a service: those on its components in the order of their keys, or one on the
service if it has no mapping of components. A service that is `null` has none. -/
def owedOnService (index : Nat) (m : String × Value) : List Diagnostic :=
  match m.2 with
  | .null => []
  | .object members => members.flatMap (owedOnComponent index m.1)
  | v => [subtreeError index m.1 none (.componentsNotMapping v.describe)]

/-- The reports on components are those that are owed, in the order of the members. -/
theorem readComponents_snd (index : Nat) (service : String) (members : Dict Value) :
    (readComponents index service members).2 =
      members.flatMap (owedOnComponent index service) := by
  induction members with
  | nil => rfl
  | cons m rest ih =>
    obtain ⟨component, v⟩ := m
    rw [List.flatMap_cons, ← ih]
    rcases headersOf_cases v with ⟨hnone, headers, hheaders⟩ | ⟨fault, hsome, herror⟩
    · simp [readComponents, hheaders, owedOnComponent, hnone]
    · simp [readComponents, herror, owedOnComponent, hsome, report, subtreeError, Diagnostic.error,
        ConfigError.code]

/-- The reports on a service are those that are owed. -/
theorem readService_snd (index : Nat) (service : String) (v : Value) :
    (readService index service v).2 = owedOnService index (service, v) := by
  cases v with
  | object members => exact readComponents_snd index service members
  | _ => rfl

/-- The reports on a mapping are those on its services, one after another. -/
theorem read_snd (index : Nat) (services : Dict Value) :
    (read index services).2 = services.flatMap (owedOnService index) := by
  induction services with
  | nil => rfl
  | cons m rest ih =>
    obtain ⟨service, v⟩ := m
    rw [List.flatMap_cons, ← ih, ← readService_snd]
    cases hlisted : (readService index service v).1 <;> simp [read, hlisted]

/-- The reports on those subtrees that are chosen, in order. -/
def reportsOn (chosen : String → Option String → Bool) (reports : List Diagnostic) :
    List Diagnostic :=
  reports.filter fun d =>
    match d.scope with
    | .subtree _ service component => chosen service component
    | _ => false

/-- What is owed on a component is reported on it. -/
theorem scope_of_mem_owedOnComponent {index : Nat} {service : String} {m : String × Value}
    {d : Diagnostic} (h : d ∈ owedOnComponent index service m) :
    d.scope = .subtree index service (some m.1) := by
  obtain ⟨fault, -, rfl⟩ := List.mem_map.mp h
  rfl

/-- What is owed on a service is reported on the service or one of its components. -/
theorem scope_of_mem_owedOnService {index : Nat} {m : String × Value} {d : Diagnostic}
    (h : d ∈ owedOnService index m) : ∃ component, d.scope = .subtree index m.1 component := by
  unfold owedOnService at h
  split at h
  · cases h
  · obtain ⟨c, -, hd⟩ := List.mem_flatMap.mp h
    exact ⟨some c.1, scope_of_mem_owedOnComponent hd⟩
  · cases List.mem_singleton.mp h
    exact ⟨none, rfl⟩

/-- The reports on chosen services are those that the services give rise to. -/
theorem reportsOn_services (index : Nat) (services : Dict Value) (chosen : String → Bool) :
    reportsOn (fun s _ => chosen s) (read index services).2 =
      (Dict.restrict services chosen).flatMap (owedOnService index) := by
  rw [read_snd]
  refine Dict.filter_flatMap_eq (fun m d hd => ?_) services
  obtain ⟨component, hscope⟩ := scope_of_mem_owedOnService hd
  rw [hscope]

/-- The reports on one service come from its own member. -/
theorem reportsOn_service {services : Dict Value} (h : (Value.object services).WellFormed)
    {service : String} {v : Value} (hv : Dict.get? services service = some v) (index : Nat) :
    reportsOn (fun s _ => s == service) (read index services).2 =
      owedOnService index (service, v) := by
  have hone : Dict.restrict services (· == service) = [(service, v)] := by
    have hsingle : Dict.Ordered [(service, v)] := List.pairwise_singleton _ _
    have hsame : ∀ name, (name == service) = true →
        Dict.get? services name = Dict.get? [(service, v)] name := by
      intro name hname
      rw [beq_iff_eq.mp hname, hv]
      simp [Dict.get?]
    rw [Dict.restrict_eq_of_get?_eq (Value.wellFormed_object.mp h).1 hsingle hsame]
    simp [Dict.restrict]
  rw [reportsOn_services, hone, List.flatMap_singleton]

/-- To pick twice is to pick once with both conditions. -/
theorem reportsOn_reportsOn (P Q : String → Option String → Bool) (reports : List Diagnostic) :
    reportsOn P (reportsOn Q reports) = reportsOn (fun s c => P s c && Q s c) reports := by
  rw [reportsOn, reportsOn, reportsOn, List.filter_filter]
  refine List.filter_congr fun d _ => ?_
  cases d.scope <;> rfl

/-- The reports on chosen components of a service that is a mapping are those that the components
give rise to. -/
theorem reportsOn_components {services members : Dict Value}
    (h : (Value.object services).WellFormed) {service : String}
    (hmembers : Dict.get? services service = some (.object members)) (index : Nat)
    (chosen : String → Bool) :
    reportsOn (fun s c => c.all chosen && s == service) (read index services).2 =
      (Dict.restrict members chosen).flatMap (owedOnComponent index service) := by
  rw [← reportsOn_reportsOn (fun _ c => c.all chosen), reportsOn_service h hmembers]
  refine Dict.filter_flatMap_eq (fun m d hd => ?_) members
  rw [scope_of_mem_owedOnComponent hd]
  rfl

/-! ## What is listed -/

/-- A service is listed with what is read from its own member. -/
theorem components?_read {services : Dict Value} (h : (Value.object services).WellFormed)
    (index : Nat) (service : String) :
    components? (read index services).1 service =
      (Dict.get? services service).bind fun v => (readService index service v).1 := by
  rw [components?, read_fst,
    Dict.get?_filterMap h.nodup_keys fun service v => (readService index service v).1]

/-- A service is kept if it is null, for all of its components, or an object of components. -/
theorem readService_isSome_iff (index : Nat) (service : String) (v : Value) :
    (readService index service v).1.isSome = true ↔
      v = .null ∨ ∃ members, v = .object members := by
  cases v <;> simp [readService]

/-- The kept services are those with such values. -/
theorem mem_services_read {services : Dict Value} (h : (Value.object services).WellFormed)
    (index : Nat) (service : String) :
    service ∈ (read index services).1.services ↔
      Dict.get? services service = some .null ∨
        ∃ members, Dict.get? services service = some (.object members) := by
  have hlisted : Dict.get? (read index services).1 service = _ := components?_read h index service
  rw [Whitelist.services, Dict.mem_keys_iff, hlisted]
  cases Dict.get? services service with
  | none => simp
  | some v => simp [readService_isSome_iff]

/-- Headers are found in the components of the service. -/
theorem headers?_eq_bind (w : Whitelist) (service component : String) :
    w.headers? service component =
      (w.components? service).bind fun components => Dict.get? components component := rfl

/-- The headers of a component are those of its own member. -/
theorem headers?_read_of_object {services members : Dict Value}
    (h : (Value.object services).WellFormed) {service : String}
    (hmembers : Dict.get? services service = some (.object members)) (index : Nat)
    (component : String) :
    headers? (read index services).1 service component =
      (Dict.get? members component).bind fun v => (headersOf v).toOption := by
  have hnodup : (Dict.keys members).Nodup := (h.get?_object hmembers).nodup_keys
  rw [headers?_eq_bind, components?_read h, hmembers]
  simp only [Option.bind_some, readService, readComponents_fst]
  exact Dict.get?_filterMap hnodup (fun _ v => (headersOf v).toOption) component

/-- A component that is not listed is reported on, and only such a component is. -/
theorem owedOnComponent_eq_nil_iff (index : Nat) (service component : String) (v : Value) :
    owedOnComponent index service (component, v) = [] ↔
      ∃ headers, (headersOf v).toOption = some headers := by
  rcases headersOf_cases v with ⟨hnone, headers, hheaders⟩ | ⟨fault, hsome, herror⟩
  · simp [owedOnComponent, hnone, hheaders, Except.toOption]
  · simp [owedOnComponent, hsome, herror, Except.toOption]

/-! ## The whole mapping -/

/-- Of a mapping of services, exactly those are listed that are `null` or mappings, with exactly
those components that are lists of headers, and with these headers. Each of the others has one
report, which says where it is and what is wrong with it, in the order of the keys, and there is no
other report.
Whatever two mappings have in common comes out the same: services with all that is under them, and
components of a service that is a mapping in both. -/
theorem read_keeps_wellShaped (services : Dict Value)
    (hservices : (Value.object services).WellFormed) (index : Nat) :
    let w := (read index services).1
    let reports := (read index services).2
    (∀ s, s ∈ w.services ↔ Dict.get? services s = some .null ∨
      ∃ members, Dict.get? services s = some (.object members)) ∧
    (∀ s c headers, w.headers? s c = some headers ↔
      IsListed (.object services) s c headers) ∧
    reports = services.flatMap (owedOnService index) ∧
    (∀ s members c v, Dict.get? services s = some (.object members) →
      Dict.get? members c = some v →
      (owedOnComponent index s (c, v) = [] ↔ ∃ headers, w.headers? s c = some headers)) ∧
    ∀ services', (Value.object services').WellFormed →
      let w' := (read index services').1
      let reports' := (read index services').2
      (∀ chosen : String → Bool,
        (∀ s, chosen s = true → Dict.get? services s = Dict.get? services' s) →
        (∀ s, chosen s = true → w.components? s = w'.components? s) ∧
          reportsOn (fun s _ => chosen s) reports = reportsOn (fun s _ => chosen s) reports') ∧
      ∀ s members members', Dict.get? services s = some (.object members) →
        Dict.get? services' s = some (.object members') → ∀ chosen : String → Bool,
        (∀ c, chosen c = true → Dict.get? members c = Dict.get? members' c) →
        (∀ c, chosen c = true → w.headers? s c = w'.headers? s c) ∧
          reportsOn (fun t c => c.all chosen && t == s) reports =
            reportsOn (fun t c => c.all chosen && t == s) reports' := by
  intro w reports
  refine ⟨mem_services_read hservices index, headers?_read_eq_some_iff hservices index,
    read_snd index services, ?_, fun services' hservices' => ⟨?_, ?_⟩⟩
  · intro s members c v hmembers hv
    rw [owedOnComponent_eq_nil_iff, headers?_read_of_object hservices hmembers, hv,
      Option.bind_some]
  · intro chosen hsame
    refine ⟨fun s hs => ?_, ?_⟩
    · rw [components?_read hservices, components?_read hservices', hsame s hs]
    · rw [reportsOn_services, reportsOn_services,
        Dict.restrict_eq_of_get?_eq (Value.wellFormed_object.mp hservices).1
          (Value.wellFormed_object.mp hservices').1 hsame]
  · intro s members members' hmembers hmembers' chosen hsame
    refine ⟨fun c hc => ?_, ?_⟩
    · rw [headers?_read_of_object hservices hmembers,
        headers?_read_of_object hservices' hmembers', hsame c hc]
    · have hordered := (Value.wellFormed_object.mp (hservices.get?_object hmembers)).1
      have hordered' := (Value.wellFormed_object.mp (hservices'.get?_object hmembers')).1
      rw [reportsOn_components hservices hmembers, reportsOn_components hservices' hmembers',
        Dict.restrict_eq_of_get?_eq hordered hordered' hsame]

/-- Of two components one has a blank header, and one service is a text. When both are put right,
the other component is listed as before. -/
theorem read_keeps_wellShaped_blank_header :
    let services : Dict Value := [("HBASE", .null),
      ("HDFS", .object [("DATANODE", .ofStrings ["disk", " "]), ("NAMENODE", .ofStrings ["jvm"])]),
      ("YARN", .string "all")]
    let mended : Dict Value := [("HBASE", .null),
      ("HDFS", .object [("DATANODE", .ofStrings ["disk"]), ("NAMENODE", .ofStrings ["jvm"])])]
    (Value.object services).WellFormed ∧ (Value.object mended).WellFormed ∧
      "HBASE" ∈ (read 4 services).1.services ∧
      (read 4 services).2 = [subtreeError 4 "HDFS" (some "DATANODE") .blankHeader,
        subtreeError 4 "YARN" none (.componentsNotMapping "string")] ∧
      (read 4 services).1.headers? "HDFS" "NAMENODE" = some ["jvm"] ∧
      (read 4 mended).1.headers? "HDFS" "NAMENODE" = some ["jvm"] := by
  intro services mended
  have hservices : (Value.object services).WellFormed := by
    simp only [services, Value.WellFormed, Value.WellFormedMembers, Value.WellFormedItems,
      Dict.Ordered, Value.ofStrings, List.map]
    decide
  have hmended : (Value.object mended).WellFormed := by
    simp only [mended, Value.WellFormed, Value.WellFormedMembers, Value.WellFormedItems,
      Dict.Ordered, Value.ofStrings, List.map]
    decide
  obtain ⟨hlisted, hheaders, hreports, -, hsame⟩ := read_keeps_wellShaped services hservices 4
  have hjvm : (read 4 services).1.headers? "HDFS" "NAMENODE" = some ["jvm"] := by
    refine (hheaders "HDFS" "NAMENODE" ["jvm"]).mpr ⟨_, rfl, rfl, ?_⟩
    exact List.forall_mem_singleton.mpr ((isBlankText_eq_false_iff "jvm").mp (by decide))
  obtain ⟨hkept, -⟩ := (hsame mended hmended).2 "HDFS" _ _ rfl rfl (· == "NAMENODE") fun c hc => by
    rw [beq_iff_eq.mp hc]
    rfl
  exact ⟨hservices, hmended, (hlisted "HBASE").mpr (Or.inl rfl), hreports.trans rfl, hjvm,
    (hkept "NAMENODE" rfl).symm.trans hjvm⟩

end ClusterMonitor.Whitelist

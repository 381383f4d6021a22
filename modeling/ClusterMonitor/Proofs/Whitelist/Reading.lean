import ClusterMonitor.Proofs.Decode.Record
import ClusterMonitor.Proofs.Value
import ClusterMonitor.Whitelist.Document

/-!
# What a whitelist lists

A whitelist keeps of its document what is well formed on each level, so that a component is listed
exactly where the document has a list of headers for it.

* `Whitelist.headersOf_eq_ok_iff` — the values that are lists of headers.
* `Whitelist.IsListed` — a document lists a component with these headers.
* `Whitelist.headers?_read_eq_some_iff` — what is listed is what the document lists.
-/

namespace ClusterMonitor.Whitelist

/-! ## Headers -/

/-- The headers are the texts that are not blank. -/
theorem headerOf_eq_ok_iff (v : Value) (header : MetricHeader) :
    headerOf v = .ok header ↔ v = .string header ∧ Unicode.isBlankText header = false := by
  cases v with
  | string text =>
    by_cases hblank : Unicode.isBlankText text = true
    · simp only [headerOf, hblank, if_true]
      constructor
      · intro h
        cases h
      · rintro ⟨⟨⟩, h⟩
        rw [hblank] at h
        cases h
    · simp only [headerOf, hblank]
      constructor
      · rintro ⟨⟩
        exact ⟨rfl, Bool.eq_false_of_not_eq_true hblank⟩
      · rintro ⟨⟨⟩, -⟩
        rfl
  | _ => simp [headerOf]

/-- A value is read as headers if it is the list of them and none is blank. -/
theorem headersOf_eq_ok_iff (v : Value) (headers : List MetricHeader) :
    headersOf v = .ok headers ↔
      v = .ofStrings headers ∧ ∀ header ∈ headers, Unicode.isBlankText header = false := by
  cases v with
  | array items =>
    simp only [headersOf, Decode.mapM_eq_ok_iff, headerOf_eq_ok_iff, Value.ofStrings,
      Value.array.injEq]
    constructor
    · intro h
      induction h with
      | nil => simp
      | cons hitem _ ih =>
        obtain ⟨rfl, hblank⟩ := hitem
        obtain ⟨rfl, hrest⟩ := ih
        exact ⟨rfl, List.forall_mem_cons.mpr ⟨hblank, hrest⟩⟩
    · rintro ⟨rfl, hblank⟩
      induction headers with
      | nil => exact .nil
      | cons header rest ih =>
        obtain ⟨hheader, hrest⟩ := List.forall_mem_cons.mp hblank
        exact .cons ⟨rfl, hheader⟩ (ih hrest)
  | _ => simp [headersOf, Value.ofStrings]

/-! ## Components -/

/-- The components are those whose headers could be read, in the order of the members. -/
theorem readComponents_fst (index : Nat) (service : String) (members : Dict Value) :
    (readComponents index service members).1 =
      members.filterMap fun m => (headersOf m.2).toOption.map fun headers => (m.1, headers) := by
  induction members with
  | nil => rfl
  | cons m rest ih =>
    obtain ⟨component, v⟩ := m
    cases hheaders : headersOf v <;> simp [readComponents, hheaders, ih, Except.toOption]

/-- The services are those that could be read, in the order of the members. -/
theorem read_fst (index : Nat) (services : Dict Value) :
    (read index services).1 =
      services.filterMap fun m =>
        (readService index m.1 m.2).1.map fun components => (m.1, components) := by
  induction services with
  | nil => rfl
  | cons m rest ih =>
    obtain ⟨service, v⟩ := m
    cases hlisted : (readService index service v).1 <;> simp [read, hlisted, ih]

/-- The services list the component with these headers, each of which has a character that is not
blank. -/
def IsListed (services : Value) (service component : String) (headers : List MetricHeader) :
    Prop :=
  ∃ components, services.get? service = some components ∧
    components.get? component = some (.ofStrings headers) ∧
    ∀ header ∈ headers, ∃ c ∈ header.toList, Unicode.isBlank c = false

/-- A text is not blank if it has a character that is not. -/
theorem isBlankText_eq_false_iff (text : String) :
    Unicode.isBlankText text = false ↔ ∃ c ∈ text.toList, Unicode.isBlank c = false := by
  simp [Unicode.isBlankText]

/-- What a service lists for a component are the headers that are read from the member there. -/
theorem get?_readService {v : Value} (hv : v.WellFormed) (index : Nat)
    (service component : String) (headers : List MetricHeader) :
    (readService index service v).1.bind (Dict.get? · component) = some headers ↔
      ∃ w, v.get? component = some w ∧ headersOf w = .ok headers := by
  cases v with
  | object members =>
    simp only [readService, Option.bind_some, Value.get?, readComponents_fst]
    rw [Dict.get?_filterMap hv.nodup_keys fun _ w => (headersOf w).toOption,
      Option.bind_eq_some_iff]
    simp only [Decode.toOption_eq_some_iff]
  | null => simp [readService, Value.get?]
  | _ => simp [readService, Value.get?]

/-- A component is listed as the document lists it: what is malformed is not listed, and takes
nothing else with it. -/
theorem headers?_read_eq_some_iff {services : Dict Value} (h : (Value.object services).WellFormed)
    (index : Nat) (service component : String) (headers : List MetricHeader) :
    headers? (read index services).1 service component = some headers ↔
      IsListed (.object services) service component headers := by
  have hservice : headers? (read index services).1 service component =
      (Dict.get? services service).bind fun v =>
        (readService index service v).1.bind (Dict.get? · component) := by
    rw [headers?, read_fst,
      Dict.get?_filterMap h.nodup_keys fun service v => (readService index service v).1,
      Option.bind_assoc]
  rw [hservice, Option.bind_eq_some_iff]
  refine exists_congr fun v => and_congr_right fun hv => ?_
  rw [get?_readService (h.get?_object hv) index service component headers]
  simp only [headersOf_eq_ok_iff, isBlankText_eq_false_iff]
  constructor
  · rintro ⟨w, hw, rfl, hblank⟩
    exact ⟨hw, hblank⟩
  · rintro ⟨hw, hblank⟩
    exact ⟨_, hw, rfl, hblank⟩

end ClusterMonitor.Whitelist

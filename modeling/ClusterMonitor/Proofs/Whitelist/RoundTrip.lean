import ClusterMonitor.Proofs.Whitelist.Reading

/-!
# Whitelists through documents

A whitelist that was read, with the malformed subtrees left out, is read again from its own document
form without a report. Nothing is restricted and nothing is listed stay apart.

* `Whitelist.NoneBlank` — no header is blank; `Whitelist.noneBlank_read` holds of what is read.
* `Whitelist.read_toValue` and `ServiceSelection.read_toValue` — what is read back.
-/

namespace ClusterMonitor

namespace Whitelist

/-- No header of any listed component is blank. -/
def NoneBlank (w : Whitelist) : Prop :=
  ∀ s ∈ w, ∀ c ∈ s.2, ∀ header ∈ c.2, Unicode.isBlankText header = false

/-! ## What is read -/

/-- No header that was read is blank. -/
theorem noneBlank_readComponents (index : Nat) (service : String) (members : Dict Value) :
    ∀ c ∈ (readComponents index service members).1, ∀ header ∈ c.2,
      Unicode.isBlankText header = false := by
  induction members with
  | nil => simp [readComponents]
  | cons m rest ih =>
    obtain ⟨component, v⟩ := m
    cases hheaders : headersOf v with
    | error fault =>
      -- a malformed component is left out
      simpa [readComponents, hheaders] using ih
    | ok headers =>
      simp only [readComponents, hheaders]
      intro c hc
      rcases List.mem_cons.mp hc with rfl | hc
      · exact ((headersOf_eq_ok_iff v headers).mp hheaders).2
      · exact ih c hc

theorem noneBlank_readService {index : Nat} {service : String} {v : Value}
    {components : Components} (h : (readService index service v).1 = some components) :
    ∀ c ∈ components, ∀ header ∈ c.2, Unicode.isBlankText header = false := by
  unfold readService at h
  split at h
  · cases h
    exact noneBlank_readComponents index service _
  · cases h
    simp
  · cases h

theorem noneBlank_read (index : Nat) (services : Dict Value) :
    NoneBlank (read index services).1 := by
  induction services with
  | nil => simp [read, NoneBlank]
  | cons m rest ih =>
    obtain ⟨service, v⟩ := m
    cases hlisted : (readService index service v).1 with
    | none =>
      -- a malformed service is left out
      simpa [read, hlisted] using ih
    | some components =>
      simp only [read, hlisted]
      intro s hs
      rcases List.mem_cons.mp hs with rfl | hs
      · exact noneBlank_readService hlisted
      · exact ih s hs

/-! ## What is read back -/

/-- Components without blank headers are read back from their document form, without a report. -/
theorem readComponents_toValue {components : Components}
    (h : ∀ c ∈ components, ∀ header ∈ c.2, Unicode.isBlankText header = false)
    (index : Nat) (service : String) :
    readComponents index service (Dict.mapValues Value.ofStrings components) =
      (components, []) := by
  induction components with
  | nil => rfl
  | cons c rest ih =>
    obtain ⟨component, headers⟩ := c
    have hheaders : headersOf (.ofStrings headers) = .ok headers :=
      (headersOf_eq_ok_iff _ headers).mpr ⟨rfl, h _ List.mem_cons_self⟩
    have hrest := ih fun x hx => h x (List.mem_cons_of_mem _ hx)
    simp [readComponents, hheaders, hrest]

/-- A whitelist without blank headers is read back from its document form, without a report. -/
theorem read_toValue {w : Whitelist} (h : NoneBlank w) (index : Nat) :
    read index (Dict.mapValues componentsValue w) = (w, []) := by
  induction w with
  | nil => rfl
  | cons s rest ih =>
    obtain ⟨service, components⟩ := s
    have hcomponents := readComponents_toValue (h _ List.mem_cons_self) index service
    have hrest := ih fun x hx => h x (List.mem_cons_of_mem _ hx)
    simp [read, readService, componentsValue, hcomponents, hrest]

end Whitelist

/-- A selection is read back from the document form of its whitelist, and from nothing if it has
none. -/
theorem ServiceSelection.read_toValue {s : ServiceSelection}
    (h : ∀ w, s.whitelist? = some w → w.NoneBlank) (index : Nat) :
    read index (s.whitelist?.map Whitelist.toValue) = (s, []) := by
  cases s with
  | unrestricted => rfl
  | listed w => simp [read, whitelist?, Whitelist.toValue, Whitelist.read_toValue (h w rfl)]

/-- The whitelist of a selection that was read has no blank header. -/
theorem ServiceSelection.noneBlank_read {index : Nat} {v : Option Value} {w : Whitelist}
    (h : (read index v).1.whitelist? = some w) : w.NoneBlank := by
  unfold read at h
  split at h
  · cases h
    exact Whitelist.noneBlank_read index _
  · cases h

end ClusterMonitor

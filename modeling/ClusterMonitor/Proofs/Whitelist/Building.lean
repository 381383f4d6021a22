import ClusterMonitor.Proofs.Whitelist.RoundTrip
import Mathlib.Data.List.Induction

/-!
# Building whitelists

A whitelist that is built step by step holds what was said of each service and component last, in
whatever order the steps come and however often they are repeated; its document form is read back.

* `Whitelist.Listing` and `Whitelist.build` — one step, and many from the empty whitelist on.
* `Whitelist.headers?_withService`, `Whitelist.headers?_withComponent` — what one step does to a
  look-up.
* `Whitelist.InOrder` — both levels are in the order of their keys; `Whitelist.inOrder_build` keeps
  this through all steps.
* `Whitelist.build_last_listing` — what is built, and what is read back.
-/

namespace ClusterMonitor.Whitelist

/-- A step of building: a service is listed, or a component of a service with its headers. -/
inductive Listing where
  | ofService (service : String)
  | ofComponent (service component : String) (headers : List MetricHeader)
deriving DecidableEq, Repr

namespace Listing

/-- The whitelist with one more listing. -/
def onto (w : Whitelist) : Listing → Whitelist
  | .ofService service => w.withService service
  | .ofComponent service component headers => w.withComponent service component headers

/-- The service that is named, by itself or for one of its components. -/
def named : Listing → String
  | .ofService service => service
  | .ofComponent service _ _ => service

/-- The headers, if it is this component that is listed. -/
def headersFor? (service component : String) : Listing → Option (List MetricHeader)
  | .ofService _ => none
  | .ofComponent s c headers => if service = s ∧ component = c then some headers else none

end Listing

/-- The whitelist of some listings, one after another. -/
def build (listings : List Listing) : Whitelist := listings.foldl Listing.onto []

/-- The last listing is written onto what the others have built. -/
theorem build_concat (listings : List Listing) (l : Listing) :
    build (listings ++ [l]) = l.onto (build listings) := by
  rw [build, List.foldl_append]
  rfl

/-! ## One listing -/

/-- A listed service stays as it is, and one that was not listed has no components yet. -/
theorem components?_withService (w : Whitelist) (service other : String) :
    (w.withService service).components? other =
      if other = service then some ((w.components? service).getD []) else w.components? other := by
  unfold withService Dict.contains components?
  cases hlisted : Dict.get? w service with
  | none => simp [Dict.get?_set]
  | some components =>
    by_cases hother : other = service
    · simp [hother, hlisted]
    · simp [hother]

/-- Listing a service takes no component away and changes none. -/
theorem headers?_withService (w : Whitelist) (service other component : String) :
    (w.withService service).headers? other component = w.headers? other component := by
  have hservice := components?_withService w service other
  unfold components? at hservice
  unfold headers?
  rw [hservice]
  by_cases hother : other = service
  · cases hlisted : Dict.get? w service <;> simp [hother, hlisted]
  · simp [hother]

/-- A listed component has its headers, and all others have what they had. -/
theorem headers?_withComponent (w : Whitelist) (service component : String)
    (headers : List MetricHeader) (other name : String) :
    (w.withComponent service component headers).headers? other name =
      if other = service ∧ name = component then some headers else w.headers? other name := by
  unfold headers? withComponent
  rw [Dict.get?_set]
  by_cases hother : other = service
  · subst hother
    by_cases hname : name = component
    · simp [hname, Dict.get?_set]
    · cases hlisted : Dict.get? w other <;> simp [hname, Dict.get?_set]
  · simp [hother]

/-- A listing replaces the headers of the components that it names, and no others. -/
theorem headers?_onto (w : Whitelist) (l : Listing) (service component : String) :
    (l.onto w).headers? service component =
      (l.headersFor? service component).or (w.headers? service component) := by
  cases l with
  | ofService s =>
    rw [Listing.onto, headers?_withService]
    rfl
  | ofComponent s c headers =>
    rw [Listing.onto, headers?_withComponent, Listing.headersFor?]
    split <;> rfl

/-- Listing a service adds it, and no other. -/
theorem mem_services_withService (w : Whitelist) (service other : String) :
    other ∈ (w.withService service).services ↔ other = service ∨ other ∈ w.services := by
  unfold withService Dict.contains
  split
  · -- a service that is listed is not listed again
    rename_i hlisted
    rw [← Dict.mem_keys_iff] at hlisted
    constructor
    · exact Or.inr
    · rintro (rfl | hother)
      · exact hlisted
      · exact hother
  · exact Dict.mem_keys_set w service [] other

theorem mem_services_onto (w : Whitelist) (l : Listing) (service : String) :
    service ∈ (l.onto w).services ↔ service = l.named ∨ service ∈ w.services := by
  cases l with
  | ofService s => exact mem_services_withService w s service
  | ofComponent s c headers => exact Dict.mem_keys_set w s _ service

/-- Services and components are in the order of their names, each of them once. -/
structure InOrder (w : Whitelist) : Prop where
  services : Dict.Ordered w
  components : ∀ s ∈ w, Dict.Ordered s.2

/-- Writing components in order keeps a whitelist in order. -/
theorem InOrder.set {w : Whitelist} (h : w.InOrder) (service : String) {components : Components}
    (hcomponents : Dict.Ordered components) : InOrder (Dict.set w service components) := by
  refine ⟨Dict.ordered_set h.services service components, fun s hs => ?_⟩
  rcases Dict.mem_set hs with rfl | hs
  · exact hcomponents
  · exact h.components s hs

/-- The components of a whitelist in order are in order. -/
theorem InOrder.get? {w : Whitelist} (h : w.InOrder) {service : String} {components : Components}
    (hlisted : Dict.get? w service = some components) : Dict.Ordered components :=
  h.components _ (Dict.mem_of_get?_eq_some hlisted)

/-- Listing a service keeps a whitelist in order. -/
theorem InOrder.withService {w : Whitelist} (h : w.InOrder) (service : String) :
    InOrder (w.withService service) := by
  unfold Whitelist.withService
  split
  · exact h
  · exact h.set service List.Pairwise.nil

theorem InOrder.onto {w : Whitelist} (h : w.InOrder) (l : Listing) : InOrder (l.onto w) := by
  cases l with
  | ofService s => exact h.withService s
  | ofComponent s c headers =>
    refine h.set s (Dict.ordered_set ?_ c headers)
    cases hlisted : Dict.get? w s with
    | none => exact List.Pairwise.nil
    | some components => exact h.get? hlisted

/-! ## Many listings -/

/-- A whitelist that was built is in order, whatever the order of the listings. -/
theorem inOrder_build (listings : List Listing) : (build listings).InOrder := by
  induction listings using List.reverseRecOn with
  | nil => exact ⟨List.Pairwise.nil, by simp [build]⟩
  | append_singleton listings l ih =>
    rw [build_concat]
    exact ih.onto l

theorem mem_services_build (listings : List Listing) (service : String) :
    service ∈ (build listings).services ↔ service ∈ listings.map Listing.named := by
  induction listings using List.reverseRecOn with
  | nil => simp [build, services, Dict.keys]
  | append_singleton listings l ih =>
    rw [build_concat, mem_services_onto, ih]
    simp [or_comm]

/-- The last listing of a component counts. -/
theorem headers?_build (listings : List Listing) (service component : String) :
    (build listings).headers? service component =
      (listings.filterMap (Listing.headersFor? service component)).getLast? := by
  induction listings using List.reverseRecOn with
  | nil => rfl
  | append_singleton listings l ih =>
    rw [build_concat, headers?_onto, ih, List.filterMap_append, List.getLast?_append]
    cases hl : l.headersFor? service component <;> simp [hl]

/-- In order, what is listed is what can be looked up. -/
theorem noneBlank_of_headers? {w : Whitelist} (h : w.InOrder)
    (hheaders : ∀ service component headers, w.headers? service component = some headers →
      ∀ header ∈ headers, Unicode.isBlankText header = false) : w.NoneBlank := by
  rintro ⟨service, components⟩ hs ⟨component, headers⟩ hc
  have hservice := Dict.get?_eq_some_of_mem (Dict.nodup_keys_of_ordered h.services) hs
  have hcomponent :=
    Dict.get?_eq_some_of_mem (Dict.nodup_keys_of_ordered (h.components _ hs)) hc
  exact hheaders service component headers (by rw [headers?, hservice]; exact hcomponent)

/-- Whatever steps a whitelist is built by, it lists exactly the services that were named, in their
order, and for each component the headers of its last listing. Listing a service takes nothing away,
in any whitelist. The document form is read back, with no report, if no header is blank. -/
theorem build_last_listing (listings : List Listing) :
    let w := build listings
    w.services.Pairwise (· < ·) ∧
    (∀ s, s ∈ w.services ↔ s ∈ listings.map Listing.named) ∧
    (∀ s c, w.headers? s c = (listings.filterMap (Listing.headersFor? s c)).getLast?) ∧
    (∀ (v : Whitelist) s t, (∀ c, (v.withService s).headers? t c = v.headers? t c) ∧
      ∀ components, v.components? t = some components →
        (v.withService s).components? t = some components) ∧
    ((∀ s c headers, w.headers? s c = some headers →
        ∀ header ∈ headers, ∃ x ∈ header.toList, Unicode.isBlank x = false) →
      ∀ index, ∃ members, w.toValue = .object members ∧ read index members = (w, [])) := by
  intro w
  have horder : w.InOrder := inOrder_build listings
  refine ⟨(Dict.ordered_iff_keys w).mp horder.services, mem_services_build listings,
    headers?_build listings, fun v s t => ⟨headers?_withService v s t, ?_⟩, ?_⟩
  · intro components hlisted
    rw [components?_withService]
    by_cases ht : t = s
    · rw [if_pos ht, ← ht, hlisted]
      rfl
    · rw [if_neg ht, hlisted]
  · intro hheaders index
    refine ⟨_, rfl, read_toValue (noneBlank_of_headers? horder ?_) index⟩
    intro s c headers hlisted header hheader
    exact (isBlankText_eq_false_iff header).mpr (hheaders s c headers hlisted header hheader)

/-- A component is listed twice, with its service listed again in between, and another one with no
headers: the later headers count, and no entry is lost on the way through the document. -/
theorem build_last_listing_repeated :
    let listings : List Listing := [.ofComponent "YARN" "NODEMANAGER" [],
      .ofComponent "HDFS" "NAMENODE" ["jvm", "rpc"], .ofService "HDFS", .ofService "HBASE",
      .ofComponent "HDFS" "NAMENODE" ["cpu"]]
    let w := build listings
    w.services = ["HBASE", "HDFS", "YARN"] ∧ w.headers? "HDFS" "NAMENODE" = some ["cpu"] ∧
      w.headers? "YARN" "NODEMANAGER" = some [] ∧
      ∃ members, w.toValue = .object members ∧ read 2 members = (w, []) := by
  intro listings w
  obtain ⟨-, -, hlast, -, hback⟩ := build_last_listing listings
  refine ⟨rfl, (hlast _ _).trans rfl, (hlast _ _).trans rfl, hback ?_ 2⟩
  intro s c headers hheaders header hheader
  -- the headers are those of one of the steps
  obtain ⟨l, hl, hfor⟩ :=
    List.mem_filterMap.mp (List.mem_of_getLast? ((hlast s c).symm.trans hheaders))
  have hgiven : ∀ l ∈ listings, ∀ s c headers, l.headersFor? s c = some headers →
      ∀ header ∈ headers, header ∈ ["jvm", "rpc", "cpu"] := by
    simp +contextual [listings, Listing.headersFor?]
  have hnames : ∀ header ∈ ["jvm", "rpc", "cpu"], Unicode.isBlankText header = false := by decide
  have hlisted := hgiven l hl s c headers hfor header hheader
  exact (isBlankText_eq_false_iff header).mp (hnames header hlisted)

end ClusterMonitor.Whitelist

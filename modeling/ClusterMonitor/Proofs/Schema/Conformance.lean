import ClusterMonitor.Proofs.Schema.Consistency
import Mathlib.Data.Fintype.EquivFin

/-!
# How deep a value is checked

A specification of an array can have one of its items, which has a type, items, allowed texts and
bounds of its own, and the label that people are told goes down through all of them. A value that is
admitted keeps to all that is said on the first level. Of the specification of its items only the
type is looked at, so that the admitted values of a specification keep to it at every depth exactly
if the one of its items says nothing more.

* `ValueSpec.Fits` — a value keeps to a specification on the first level.
* `ValueSpec.Conforms` — it does so at every depth.
* `ValueSpec.admits_iff` — which values are admitted.
* `ValueSpec.SaysTypeOnly`, `ValueSpec.forall_conforms_iff` — specifications that no value of their
  type goes against.
* `ValueSpec.admitted_conforms_iff` — which specifications admit only values that conform.
-/

namespace ClusterMonitor

namespace ValueType

/-- A value of a numeric type has a place on the number line. -/
theorem exists_asFloat? {t : ValueType} (ht : t.isNumeric = true) {v : Value}
    (h : t.accepts v = true) : ∃ x, v.asFloat? = some x := by
  cases t <;> cases ht <;> cases v <;> cases h <;> exact ⟨_, rfl⟩

/-- Only the type of arrays accepts an array. -/
theorem accepts_array_iff (t : ValueType) (elements : List Value) :
    t.accepts (.array elements) = true ↔ t = .array := by
  cases t <;> simp [accepts]

/-- Whatever texts are listed, a type other than the numeric ones has a value that is none of
them. -/
theorem exists_accepts_unlisted {t : ValueType} (ht : t.isNumeric = false) (texts : List String) :
    ∃ v, t.accepts v = true ∧ ∀ text ∈ texts, v ≠ .string text := by
  cases t with
  | boolean => exact ⟨.bool true, rfl, by simp⟩
  | string =>
    obtain ⟨fresh, hfresh⟩ := Infinite.exists_notMem_finset texts.toFinset
    refine ⟨.string fresh, rfl, ?_⟩
    rintro text htext heq
    cases heq
    exact hfresh (List.mem_toFinset.mpr htext)
  | integer => cases ht
  | number => cases ht
  | array => exact ⟨.array [], rfl, by simp⟩
  | object => exact ⟨.object [], rfl, by simp⟩

end ValueType

namespace ValueSpec

/-- A number is within the bounds. -/
def Within (s : ValueSpec) (x : Float) : Prop :=
  (∀ low, s.minimum = some low → ¬ x < low) ∧ ∀ high, s.maximum = some high → ¬ high < x

/-- A value keeps to what a specification itself says: it has the type, a number is within the
bounds, and any other value is one of the allowed texts, if there are any. -/
structure Fits (s : ValueSpec) (v : Value) : Prop where
  accepts : s.type.accepts v = true
  within : s.type.isNumeric = true → ∀ x, v.asFloat? = some x → s.Within x
  listed : s.type.isNumeric = false → s.allowed = [] ∨ ∃ text ∈ s.allowed, v = .string text

/-- A value keeps to a specification at every depth: it fits, and the items of an array keep to the
specification of the items. -/
inductive Conforms : ValueSpec → Value → Prop where
  | intro {s : ValueSpec} {v : Value} (hfits : s.Fits v)
      (hitems : ∀ items elements, s.items = some items → v = .array elements →
        ∀ e ∈ elements, Conforms items e) : Conforms s v

/-- A value conforms if it fits, and its elements conform to the specification of the items. -/
theorem conforms_iff (s : ValueSpec) (v : Value) :
    s.Conforms v ↔ s.Fits v ∧ ∀ items elements, s.items = some items → v = .array elements →
      ∀ e ∈ elements, items.Conforms e := by
  constructor
  · rintro ⟨hfits, hitems⟩
    exact ⟨hfits, hitems⟩
  · rintro ⟨hfits, hitems⟩
    exact .intro hfits hitems

/-! ## What is admitted -/

/-- A value of the right type is allowed if a number is finite and within the bounds, and any other
value is one of the allowed texts, if there are any. -/
theorem checkAllowed_eq_ok_iff {s : ValueSpec} {v : Value} (h : s.type.accepts v = true) :
    s.checkAllowed v = .ok () ↔
      (s.type.isNumeric = true → ∀ x, v.asFloat? = some x → x.isFinite = true ∧ s.Within x) ∧
      (s.type.isNumeric = false → s.allowed = [] ∨ ∃ text ∈ s.allowed, v = .string text) := by
  cases hs : s.type.isNumeric with
  | true =>
    obtain ⟨x, hx⟩ := ValueType.exists_asFloat? hs h
    rw [checkAllowed_of_isNumeric hs hx, checkRange_eq_ok_iff]
    simp [hx, Within]
  | false =>
    rw [checkAllowed_of_not_isNumeric hs, checkListed_eq_ok_iff]
    simp

/-- A value is admitted if it fits, is finite if it is a number, and its items have the type that is
asked for. -/
theorem admits_iff (s : ValueSpec) (v : Value) :
    s.Admits v ↔ s.Fits v ∧
      (s.type.isNumeric = true → ∀ x, v.asFloat? = some x → x.isFinite = true) ∧
      ∀ items elements, s.items = some items → v = .array elements →
        ∀ e ∈ elements, items.type.accepts e = true := by
  unfold Admits
  rw [checkType_eq_ok_iff]
  constructor
  · rintro ⟨⟨haccepts, hitems⟩, hallowed⟩
    obtain ⟨hrange, hlisted⟩ := (checkAllowed_eq_ok_iff haccepts).mp hallowed
    have hfits : s.Fits v := ⟨haccepts, fun hs x hx => (hrange hs x hx).2, hlisted⟩
    exact ⟨hfits, fun hs x hx => (hrange hs x hx).1, hitems⟩
  · rintro ⟨hfits, hfinite, hitems⟩
    refine ⟨⟨hfits.accepts, hitems⟩, (checkAllowed_eq_ok_iff hfits.accepts).mpr ⟨?_, hfits.listed⟩⟩
    exact fun hs x hx => ⟨hfinite hs x hx, hfits.within hs x hx⟩

theorem fits_of_admits {s : ValueSpec} {v : Value} (h : s.Admits v) : s.Fits v :=
  ((s.admits_iff v).mp h).1

/-- An admitted value conforms if its items do. -/
theorem conforms_iff_of_admits {s : ValueSpec} {v : Value} (h : s.Admits v) :
    s.Conforms v ↔ ∀ items elements, s.items = some items → v = .array elements →
      ∀ e ∈ elements, items.Conforms e := by
  rw [conforms_iff]
  exact and_iff_right (fits_of_admits h)

/-! ## Specifications that say no more than a type -/

/-- The specification has nothing to say of a value of its type: no texts are listed, there are no
items to be specified, and no number is out of bounds. -/
structure SaysTypeOnly (s : ValueSpec) : Prop where
  noTexts : s.type.isNumeric = false → s.allowed = []
  noItems : s.type = .array → s.items = none
  noBounds : s.type.isNumeric = true → ∀ v x, s.type.accepts v = true → v.asFloat? = some x →
    s.Within x

/-- A specification that says more than its type is one that some value of the type goes against. -/
theorem forall_conforms_iff (s : ValueSpec) :
    (∀ v, s.type.accepts v = true → s.Conforms v) ↔ s.SaysTypeOnly := by
  constructor
  · intro h
    refine ⟨?_, ?_, ?_⟩
    · intro hs
      obtain ⟨v, hv, hunlisted⟩ := ValueType.exists_accepts_unlisted hs s.allowed
      obtain ⟨hfits, -⟩ := (s.conforms_iff v).mp (h v hv)
      rcases hfits.listed hs with hnone | ⟨text, htext, rfl⟩
      · exact hnone
      · exact absurd rfl (hunlisted text htext)
    · intro hs
      -- `null` is an item of no specification
      cases hitems : s.items with
      | none => rfl
      | some items =>
        have hconforms := h (.array [.null]) ((s.type.accepts_array_iff _).mpr hs)
        obtain ⟨-, hall⟩ := (s.conforms_iff _).mp hconforms
        obtain ⟨hfits, -⟩ := (items.conforms_iff _).mp (hall items _ hitems rfl .null (by simp))
        exact absurd hfits.accepts (by simp)
    · intro hs v x hv hx
      exact ((s.conforms_iff v).mp (h v hv)).1.within hs x hx
  · intro h v hv
    refine (s.conforms_iff v).mpr ⟨⟨hv, fun hs x hx => h.noBounds hs v x hv hx,
      fun hs => .inl (h.noTexts hs)⟩, ?_⟩
    rintro items elements hitems rfl
    have hnone := h.noItems ((s.type.accepts_array_iff elements).mp hv)
    rw [hnone] at hitems
    cases hitems

/-- Nothing is asked of the item of an array but its type. -/
theorem admits_array_singleton {s items : ValueSpec} (hs : s.type = .array)
    (hallowed : s.allowed = []) (hitems : s.items = some items) {e : Value}
    (he : items.type.accepts e = true) : s.Admits (.array [e]) := by
  have hnumeric : s.type.isNumeric = false := by rw [hs]; rfl
  have hfits : s.Fits (.array [e]) :=
    ⟨(s.type.accepts_array_iff _).mpr hs, fun h => absurd h (by simp [hnumeric]),
      fun _ => .inl hallowed⟩
  refine (s.admits_iff _).mpr ⟨hfits, fun h => absurd h (by simp [hnumeric]), ?_⟩
  intro other elements hother heq x hx
  rw [hitems] at hother
  cases hother
  cases heq
  rw [List.mem_singleton.mp hx]
  exact he

/-- What is promised of the values that a specification admits. They keep to the specification
itself. They keep to it at every depth if and only if their items do, which nothing sees to beyond
the type of the items: all the values that are admitted conform exactly if the specification of the
items, in an array that has one and can be admitted, says nothing more than a type. -/
theorem admitted_conforms_iff (s : ValueSpec) :
    (∀ v, s.Admits v → s.Fits v) ∧
      (∀ v, s.Admits v →
        (s.Conforms v ↔ ∀ items elements, s.items = some items → v = .array elements →
          ∀ e ∈ elements, items.Conforms e)) ∧
      ((∀ v, s.Admits v → s.Conforms v) ↔
        ∀ items, s.type = .array → s.allowed = [] → s.items = some items →
          items.SaysTypeOnly) := by
  refine ⟨fun v => fits_of_admits, fun v => conforms_iff_of_admits, ?_⟩
  constructor
  · intro h items hs hallowed hitems
    rw [← forall_conforms_iff]
    intro e he
    have hconforms := h _ (admits_array_singleton hs hallowed hitems he)
    obtain ⟨-, hall⟩ := (s.conforms_iff _).mp hconforms
    exact hall items _ hitems rfl e List.mem_cons_self
  · intro h v hv
    rw [conforms_iff_of_admits hv]
    rintro items elements hitems rfl e he
    obtain ⟨hfits, -, htypes⟩ := (s.admits_iff _).mp hv
    have hs : s.type = .array := (s.type.accepts_array_iff elements).mp hfits.accepts
    have hallowed : s.allowed = [] := by
      rcases hfits.listed (by rw [hs]; rfl) with hnone | ⟨text, -, heq⟩
      · exact hnone
      · cases heq
    have honly := h items hs hallowed hitems
    exact (items.forall_conforms_iff).mpr honly e (htypes items elements hitems rfl e he)

theorem admitted_conforms_iff_list_of_strings :
    (⟨.array, none, none, some { type := .string }, [], none, none⟩ : ValueSpec).Conforms
      (.array [.string "HDFS", .string "YARN"]) := by
  refine ((admitted_conforms_iff _).2.2.mpr ?_) _ ⟨rfl, rfl⟩
  rintro items - - hitems
  cases hitems
  exact ⟨fun _ => rfl, fun h => (by cases h), fun h => (by cases h)⟩

/-- The label tells of lists of strings, and a list of lists of numbers is admitted. So is a text
that the items are not allowed to be. -/
theorem nested_items_unchecked :
    let lists : ValueSpec :=
      { type := .array, items := some { type := .array, items := some { type := .string } } }
    let texts : ValueSpec :=
      { type := .array, items := some { type := .string, allowed := ["basic", "digest"] } }
    (lists.label = "list of list of stringss" ∧ lists.Admits (.array [.array [.int 1]]) ∧
        ¬ lists.Conforms (.array [.array [.int 1]])) ∧
      texts.Admits (.array [.string "kerberos"]) ∧
        ¬ texts.Conforms (.array [.string "kerberos"]) := by
  refine ⟨⟨by decide, ⟨rfl, rfl⟩, ?_⟩, ⟨rfl, rfl⟩, ?_⟩
  · rintro ⟨-, houter⟩
    obtain ⟨-, hinner⟩ := houter _ _ rfl rfl (.array [.int 1]) List.mem_cons_self
    obtain ⟨hfits, -⟩ := hinner _ _ rfl rfl (.int 1) List.mem_cons_self
    exact absurd hfits.accepts (by decide)
  · rintro ⟨-, hitems⟩
    obtain ⟨hfits, -⟩ := hitems _ _ rfl rfl (.string "kerberos") List.mem_cons_self
    exact absurd (hfits.listed rfl) (by simp)

end ValueSpec

end ClusterMonitor

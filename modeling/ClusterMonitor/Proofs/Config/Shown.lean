import ClusterMonitor.Proofs.Dict
import ClusterMonitor.Url.Basic
import ClusterMonitor.Value
import Mathlib.Data.List.Forall2

/-!
# What is shown of a value

A document is shown again in the same form. A part of it is shown if all that it says, down to the
last member and item, is found at the same place of what is shown.

* `Step` and `Value.follow?` — a place inside a value, and what is there.
* `Value.mapItems`, `Value.mapItemsOf` — parts of the items of an array, also as a member.
* `ShownAs` — the ways in which what is found at a place may differ from what was written there.
* `ShownBy` — all that one value says is shown by another one; `ShownBy.object`, `ShownBy.array` and
  `ShownBy.array_of_forall₂` go down by one level.
-/

namespace ClusterMonitor

/-- A step into a value: to a member of an object, or to an item of an array. -/
inductive Step where
  | key (name : String)
  | item (index : Nat)
deriving DecidableEq, Repr

namespace Value

/-- The value at the end of a path of steps. -/
def follow? : Value → List Step → Option Value
  | v, [] => some v
  | .object members, .key name :: path => (Dict.get? members name).bind fun w => w.follow? path
  | .array items, .item index :: path => items[index]?.bind fun w => w.follow? path
  | _, _ :: _ => none

/-- Is there nothing inside the value? -/
def isEmpty : Value → Bool
  | .null => true
  | .array items => items.isEmpty
  | .object members => members.isEmpty
  | _ => false

/-- An array with each item mapped; any other value is left as it is. -/
def mapItems (f : Value → Value) : Value → Value
  | .array items => .array (items.map f)
  | v => v

/-- The same for the member of one name; any other member is left as it is. -/
def mapItemsOf (name : String) (f : Value → Value) (key : String) (v : Value) : Value :=
  if key = name then v.mapItems f else v

/-- Changing the items of a member does not change whether it is empty. -/
@[simp] theorem isEmpty_mapItemsOf (name : String) (f : Value → Value) (key : String) (v : Value) :
    (mapItemsOf name f key v).isEmpty = v.isEmpty := by
  unfold mapItemsOf
  split
  · cases v with
    | array items => cases items <;> rfl
    | _ => rfl
  · rfl

/-- A path into an object goes by a key that it has. -/
theorem follow?_object_cons {members : Dict Value} {step : Step} {path : List Step} {u : Value}
    (h : (Value.object members).follow? (step :: path) = some u) :
    ∃ name w, step = .key name ∧ Dict.get? members name = some w ∧ w.follow? path = some u := by
  cases step with
  | key name =>
    obtain ⟨w, hw, hu⟩ := Option.bind_eq_some_iff.mp h
    exact ⟨name, w, rfl, hw, hu⟩
  | item index => cases h

/-- A path into an array goes by an index that it has. -/
theorem follow?_array_cons {items : List Value} {step : Step} {path : List Step} {u : Value}
    (h : (Value.array items).follow? (step :: path) = some u) :
    ∃ index w, step = .item index ∧ items[index]? = some w ∧ w.follow? path = some u := by
  cases step with
  | key name => cases h
  | item index =>
    obtain ⟨w, hw, hu⟩ := Option.bind_eq_some_iff.mp h
    exact ⟨index, w, rfl, hw, hu⟩

/-- Nothing lies inside an empty value. -/
theorem eq_nil_of_follow?_isEmpty {v u : Value} (hv : v.isEmpty = true) {path : List Step}
    (h : v.follow? path = some u) : path = [] := by
  cases path with
  | nil => rfl
  | cons step path =>
    cases v with
    | array items =>
      obtain ⟨index, w, -, hw, -⟩ := follow?_array_cons h
      simp [List.isEmpty_iff.mp hv] at hw
    | object members =>
      obtain ⟨name, w, -, hw, -⟩ := follow?_object_cons h
      simp [List.isEmpty_iff.mp hv] at hw
    | null => cases step <;> cases h
    | _ => cases hv

end Value

/-- A value at a place of a document is shown as another one: as itself, but a number may be shown as
a float, the URL of an instance in its normal form, and the type of a log source as its name. Of
arrays and objects only the outer form is compared. -/
inductive ShownAs : List Step → Value → Value → Prop where
  | same (place : List Step) (v : Value) : ShownAs place v v
  | number (place : List Step) (n : Int) : ShownAs place (.int n) (.float (Float.ofInt n))
  | url (index : Nat) {text : String} {url : Url} (h : Url.ofText? text = .ok url) :
      ShownAs [.key "instances", .item index, .key "url"] (.string text) (.string url.text)
  | type (index : Nat) (name : String) :
      ShownAs [.key "logs", .item index, .key "type"] (.object [(name, .null)]) (.string name)
  | array (place : List Step) {items shown : List Value} (h : items.length = shown.length) :
      ShownAs place (.array items) (.array shown)
  | object (place : List Step) (members shown : Dict Value) :
      ShownAs place (.object members) (.object shown)

/-- All that a value at a place of a document says, down to the last member and item, is shown by
another value. What is empty says nothing. -/
def ShownBy (place : List Step) (v w : Value) : Prop :=
  ∀ path u, v.follow? path = some u → u.isEmpty = false →
    ∃ u', w.follow? path = some u' ∧ ShownAs (place ++ path) u u'

namespace ShownBy

variable {place : List Step}

theorem refl (place : List Step) (v : Value) : ShownBy place v v :=
  fun path u hu _ => ⟨u, hu, .same (place ++ path) u⟩

/-- What is empty is shown by anything. -/
theorem of_isEmpty {v : Value} (hv : v.isEmpty = true) (w : Value) : ShownBy place v w := by
  intro path u hu hne
  cases Value.eq_nil_of_follow?_isEmpty hv hu
  cases hu
  rw [hv] at hne
  cases hne

/-- A value with nothing but empty values below it is shown as a whole. -/
theorem of_shownAs {v w : Value} (h : ShownAs place v w)
    (hleaf : ∀ path u, v.follow? path = some u → u.isEmpty = false → path = []) :
    ShownBy place v w := by
  intro path u hu hne
  cases hleaf path u hu hne
  cases hu
  exact ⟨w, rfl, (List.append_nil place).symm ▸ h⟩

/-- An integer may be shown as a float. -/
theorem number (place : List Step) (n : Int) :
    ShownBy place (.int n) (.float (Float.ofInt n)) := by
  refine of_shownAs (.number place n) fun path u hu _ => ?_
  cases path with
  | nil => rfl
  | cons step path => cases step <;> cases hu

/-- A URL may be shown in its usual form. -/
theorem url (index : Nat) {text : String} {url : Url} (h : Url.ofText? text = .ok url) :
    ShownBy [.key "instances", .item index, .key "url"] (.string text) (.string url.text) := by
  refine of_shownAs (.url index h) fun path u hu _ => ?_
  cases path with
  | nil => rfl
  | cons step path => cases step <;> cases hu

/-- A type that is written as an object is shown as its only key. -/
theorem type (index : Nat) (name : String) :
    ShownBy [.key "logs", .item index, .key "type"] (.object [(name, .null)]) (.string name) := by
  refine of_shownAs (.type index name) fun path u hu hne => ?_
  cases path with
  | nil => rfl
  | cons step path =>
    obtain ⟨key, v, rfl, hv, hu⟩ := Value.follow?_object_cons hu
    have hnull : v = .null := by
      simp only [Dict.get?] at hv
      split at hv
      · cases hv
        rfl
      · cases hv
    -- what is behind the name is empty
    subst hnull
    cases Value.eq_nil_of_follow?_isEmpty rfl hu
    cases hu
    cases hne

/-- An object is shown by another one if each of its members that is not empty is. -/
theorem object {members shown : Dict Value}
    (h : ∀ name v, Dict.get? members name = some v → v.isEmpty = false →
      ∃ w, Dict.get? shown name = some w ∧ ShownBy (place ++ [.key name]) v w) :
    ShownBy place (.object members) (.object shown) := by
  intro path u hu hne
  cases path with
  | nil =>
    cases hu
    exact ⟨.object shown, rfl, .object _ members shown⟩
  | cons step path =>
    obtain ⟨name, v, rfl, hv, hu⟩ := Value.follow?_object_cons hu
    cases hempty : v.isEmpty with
    | true =>
      -- the path ends here, with an empty value
      cases Value.eq_nil_of_follow?_isEmpty hempty hu
      cases hu
      rw [hempty] at hne
      cases hne
    | false =>
      obtain ⟨w, hw, hshown⟩ := h name v hv hempty
      obtain ⟨u', hu', has⟩ := hshown path u hu hne
      refine ⟨u', ?_, ?_⟩
      · rw [Value.follow?, hw, Option.bind_some, hu']
      · rwa [List.append_assoc] at has

/-- An array is shown by another one if its items are, each in its place. -/
theorem array {items shown : List Value} (hlength : items.length = shown.length)
    (h : ∀ index v, items[index]? = some v →
      ∃ w, shown[index]? = some w ∧ ShownBy (place ++ [.item index]) v w) :
    ShownBy place (.array items) (.array shown) := by
  intro path u hu hne
  cases path with
  | nil =>
    cases hu
    exact ⟨.array shown, rfl, .array _ hlength⟩
  | cons step path =>
    obtain ⟨index, v, rfl, hv, hu⟩ := Value.follow?_array_cons hu
    obtain ⟨w, hw, hshown⟩ := h index v hv
    obtain ⟨u', hu', has⟩ := hshown path u hu hne
    refine ⟨u', ?_, ?_⟩
    · rw [Value.follow?, hw, Option.bind_some, hu']
    · rwa [List.append_assoc] at has

/-- The items of an array are shown by what each of them is read as. -/
theorem array_of_forall₂ {α : Type} {R : Value → α → Prop} {items : List Value} {xs : List α}
    {part : Value → Value} {form : α → Value} (h : List.Forall₂ R items xs)
    (hshown : ∀ index item x, R item x →
      ShownBy (place ++ [.item index]) (part item) (form x)) :
    ShownBy place (.array (items.map part)) (.array (xs.map form)) := by
  obtain ⟨hlength, hread⟩ := List.forall₂_iff_get.mp h
  refine array (by simp [hlength]) fun index v hv => ?_
  rw [List.getElem?_map] at hv
  obtain ⟨item, hitem, rfl⟩ := Option.map_eq_some_iff.mp hv
  obtain ⟨hindex, rfl⟩ := List.getElem?_eq_some_iff.mp hitem
  have hx : index < xs.length := hlength ▸ hindex
  exact ⟨form xs[index], by simp [hx], hshown index _ _ (hread index hindex hx)⟩

end ShownBy

end ClusterMonitor

import ClusterMonitor.Options
import ClusterMonitor.Schema.Builtin
import ClusterMonitor.Schema.Check
import Mathlib.Data.List.Nodup

/-!
# What an accepted schema promises

A schema that passes its own rules declares each option of a scope once, and its defaults pass the
specifications that they stand in for. Whoever checks values against the schema relies on both.

* `ValueSpec.checkType_eq_ok_iff`, `ValueSpec.checkListed_eq_ok_iff`,
  `ValueSpec.checkRange_eq_ok_iff` — which values pass the checks of a specification.
* `ValueSpec.Admits` — a value passes both of them.
* `ValueSpec.fault?_eq_none_iff` — which specifications are without a fault.
* `Schema.declaresOnce_of_check` and `Schema.admits_default_of_check` — the two promises.
* `Schema.check_builtin` — the built-in schema is accepted.
-/

namespace ClusterMonitor

@[simp] theorem ValueType.accepts_null (t : ValueType) : t.accepts .null = false := by
  cases t <;> rfl

namespace ValueSpec

/-- A value has the declared type if the type accepts it and, for an array, the type of the items
accepts each of its items. Nothing else that the specification of the items says is looked at. -/
theorem checkType_eq_ok_iff (s : ValueSpec) (v : Value) :
    s.checkType v = .ok () ↔
      s.type.accepts v = true ∧ ∀ items elements, s.items = some items → v = .array elements →
        ∀ e ∈ elements, items.type.accepts e = true := by
  unfold checkType
  cases haccepts : s.type.accepts v with
  | false => simp
  | true =>
    cases s.items with
    | none => simp
    | some items =>
      cases v with
      | array elements =>
        cases hbad : elements.find? fun e => !items.type.accepts e with
        | none =>
          have hgood := List.find?_eq_none.mp hbad
          simpa [hbad] using hgood
        | some bad =>
          have hrefused : items.type.accepts bad = false := by simpa using List.find?_some hbad
          simpa [hbad] using ⟨bad, List.mem_of_find?_eq_some hbad, hrefused⟩
      | _ => simp

/-- A value is in the list if it is one of its texts, or if there is no list. -/
theorem checkListed_eq_ok_iff (s : ValueSpec) (v : Value) :
    s.checkListed v = .ok () ↔ s.allowed = [] ∨ ∃ text ∈ s.allowed, v = .string text := by
  unfold checkListed
  by_cases hempty : s.allowed = []
  · simp [hempty]
  · cases v with
    | string text => by_cases hmem : text ∈ s.allowed <;> simp [hempty, hmem]
    | _ => simp [hempty]

/-- A number is in range if it is finite and beyond neither bound. -/
theorem checkRange_eq_ok_iff (s : ValueSpec) (x : Float) :
    s.checkRange x = .ok () ↔
      x.isFinite = true ∧ (∀ low, s.minimum = some low → ¬ x < low) ∧
        ∀ high, s.maximum = some high → ¬ high < x := by
  have hlow : s.minimum.filter (x < ·) = none ↔ ∀ low, s.minimum = some low → ¬ x < low := by
    simp [Option.filter_eq_none_iff]
  have hhigh : s.maximum.filter (· < x) = none ↔ ∀ high, s.maximum = some high → ¬ high < x := by
    simp [Option.filter_eq_none_iff]
  rw [← hlow, ← hhigh]
  unfold checkRange
  cases hfinite : x.isFinite with
  | false => simp
  | true =>
    cases s.minimum.filter (x < ·) with
    | some low => simp
    | none => cases s.maximum.filter (· < x) <;> simp

/-- Numbers are held to their bounds. -/
theorem checkAllowed_of_isNumeric {s : ValueSpec} (hs : s.type.isNumeric = true) {v : Value}
    {x : Float} (hx : v.asFloat? = some x) : s.checkAllowed v = s.checkRange x := by
  simp only [checkAllowed, hx, hs, if_true]

/-- All other values are held to the listed texts. -/
theorem checkAllowed_of_not_isNumeric {s : ValueSpec} (hs : s.type.isNumeric = false) (v : Value) :
    s.checkAllowed v = s.checkListed v := by
  cases hx : v.asFloat? <;> simp [checkAllowed, hx, hs]

/-- The value has the declared type and is among the values that are allowed. -/
def Admits (s : ValueSpec) (v : Value) : Prop :=
  s.checkType v = .ok () ∧ s.checkAllowed v = .ok ()

theorem Admits.accepts {s : ValueSpec} {v : Value} (h : s.Admits v) : s.type.accepts v = true :=
  ((s.checkType_eq_ok_iff v).mp h.1).1

/-- A null is never admitted. -/
theorem Admits.ne_null {s : ValueSpec} {v : Value} (h : s.Admits v) : v ≠ .null := by
  rintro rfl
  exact absurd h.accepts (by simp)

/-- A default or an example without a fault has the type. -/
theorem checkType_of_partFault?_eq_none {s : ValueSpec} {part : String} {v : Value}
    (h : s.partFault? part (some v) = none) : s.checkType v = .ok () := by
  unfold partFault? at h
  cases hcheck : s.checkType v with
  | ok u => rfl
  | error fault => simp [hcheck] at h

/-- A default without a fault is allowed. -/
theorem checkAllowed_of_defaultFault?_eq_none {s : ValueSpec} {v : Value}
    (hv : s.default = some v) (h : s.defaultFault? = none) : s.checkAllowed v = .ok () := by
  unfold defaultFault? at h
  cases hcheck : s.checkAllowed v with
  | ok u => rfl
  | error fault => simp [hv, hcheck] at h

/-- A specification without a fault restricts only what its type has, and its example and its default
pass the checks that they are put to. -/
theorem fault?_eq_none_iff (s : ValueSpec) :
    s.fault? = none ↔
      (s.items.isSome = true → s.type = .array) ∧
      (s.minimum.isSome = true ∨ s.maximum.isSome = true → s.type.isNumeric = true) ∧
      s.boundsFault? = none ∧ (s.allowed ≠ [] → s.type = .string) ∧
      s.partFault? "default" s.default = none ∧ s.partFault? "example" s.example = none ∧
      s.defaultFault? = none := by
  simp [fault?, ite_eq_iff]

/-- A specification without a fault admits its own default. -/
theorem admits_default {s : ValueSpec} (h : s.fault? = none) {v : Value}
    (hv : s.default = some v) : s.Admits v := by
  obtain ⟨-, -, -, -, htype, -, hallowed⟩ := s.fault?_eq_none_iff.mp h
  rw [hv] at htype
  exact ⟨checkType_of_partFault?_eq_none htype, checkAllowed_of_defaultFault?_eq_none hv hallowed⟩

end ValueSpec

/-- An option takes the values that its specification admits. -/
theorem OptionSpec.checkValue_eq_ok_iff (o : OptionSpec) (v : Value) :
    o.checkValue v = .ok () ↔ o.value.Admits v := by
  unfold checkValue ValueSpec.Admits
  cases o.value.checkType v with
  | error fault => simp
  | ok u => cases o.value.checkAllowed v <;> simp

namespace Schema

/-- Options without a fault have different names, and specifications without a fault. -/
theorem optionsFault?_eq_none {scope : OptionScope} {seen : List String}
    {options : List OptionSpec} (h : optionsFault? scope seen options = none) :
    (∀ o ∈ options, o.name ∉ seen) ∧ (options.map (·.name)).Nodup ∧
      ∀ o ∈ options, o.value.fault? = none := by
  induction options generalizing seen with
  | nil => simp
  | cons o rest ih =>
    unfold optionsFault? at h
    split at h
    · cases h
    · split at h
      · cases h
      · rename_i hseen
        split at h
        · cases h
        · rename_i hfault
          -- the rest avoids the names before it, and this one
          obtain ⟨hnew, hnodup, hfaults⟩ := ih h
          have ho : o.name ∉ seen := by simpa using hseen
          refine ⟨?_, ?_, ?_⟩
          · intro x hx
            rcases List.mem_cons.mp hx with rfl | hx
            · exact ho
            · exact fun hmem => hnew x hx (List.mem_cons_of_mem _ hmem)
          · refine List.nodup_cons.mpr ⟨?_, hnodup⟩
            intro hmem
            obtain ⟨x, hx, hname⟩ := List.mem_map.mp hmem
            exact hnew x hx (hname ▸ List.mem_cons_self)
          · intro x hx
            rcases List.mem_cons.mp hx with rfl | hx
            · exact hfault
            · exact hfaults x hx

/-- A checked schema has no fault. -/
theorem fault?_eq_none_of_check {s : Schema} (h : s.check = .ok ()) : s.fault? = none := by
  unfold check at h
  split at h
  · cases h
  · assumption

/-- Neither scope of a checked schema has one. -/
theorem optionsFault?_of_check {s : Schema} (h : s.check = .ok ()) (scope : OptionScope) :
    optionsFault? scope [] (s.options scope) = none := by
  have hfault := fault?_eq_none_of_check h
  simp only [fault?, Option.orElse_eq_orElse, Option.orElse_eq_or, Option.or_eq_none_iff] at hfault
  obtain ⟨hinit, hinstances, -, -⟩ := hfault
  cases scope with
  | initConfig => exact hinit
  | instances => exact hinstances

/-- A checked schema declares each option once. -/
theorem declaresOnce_of_check {s : Schema} (h : s.check = .ok ()) (scope : OptionScope) :
    ((s.options scope).map (·.name)).Nodup :=
  (optionsFault?_eq_none (optionsFault?_of_check h scope)).2.1

/-- The defaults of a checked schema are admitted. -/
theorem admits_default_of_check {s : Schema} (h : s.check = .ok ()) (scope : OptionScope)
    {o : OptionSpec} (ho : o ∈ s.options scope) {v : Value} (hv : o.value.default = some v) :
    o.value.Admits v :=
  ValueSpec.admits_default ((optionsFault?_eq_none (optionsFault?_of_check h scope)).2.2 o ho) hv

theorem check_builtin : builtin.check = .ok () := rfl

end Schema

end ClusterMonitor

import ClusterMonitor.Proofs.Options.Contract

/-!
# Options that take any text

Where the option of a name takes any text, a check passes on the text that is supplied and says
nothing of it. To change the text before the check comes to the same as to change it afterwards.

* `Value.mapTexts` — members with the text under one name changed.
* `Checker.TakesAnyText` — the condition on an option.
* `Checker.check_mapTexts` — changing the text before the check and after it.
* `Options.string?_mapTexts_self` — the text of an option, changed.
-/

namespace ClusterMonitor

/-! ## Changed texts -/

namespace Value

variable (name : String) (f : String → String)

/-- A text changed, and any other value as it is. -/
def mapText : Value → Value
  | .string text => .string (f text)
  | v => v

/-- The value of a member, changed if it is a text under the name. -/
def mapTextAt (key : String) (v : Value) : Value := if key = name then v.mapText f else v

/-- The members with the text under the name changed. -/
def mapTexts (members : Dict Value) : Dict Value := Dict.mapEntries (mapTextAt name f) members

variable {name}

@[simp] theorem isNull_mapText (v : Value) : (v.mapText f).isNull = v.isNull := by
  cases v <;> rfl

@[simp] theorem isNull_mapTextAt (key : String) (v : Value) :
    (mapTextAt name f key v).isNull = v.isNull := by
  unfold mapTextAt
  split <;> simp

theorem mapTextAt_of_ne {key : String} (h : key ≠ name) (v : Value) : mapTextAt name f key v = v :=
  if_neg h

theorem get?_mapTexts_of_ne {key : String} (h : key ≠ name) (members : Dict Value) :
    Dict.get? (mapTexts name f members) key = Dict.get? members key := by
  have hsame : mapTextAt name f key = id := funext (mapTextAt_of_ne f h)
  rw [mapTexts, Dict.get?_mapEntries, hsame, Option.map_id, id]

/-- What is given is what was given before, with its text changed. -/
theorem given?_mapTexts (members : Dict Value) (key : String) :
    given? (mapTexts name f members) key = (given? members key).map (mapTextAt name f key) := by
  rw [given?, given?, mapTexts, Dict.get?_mapEntries]
  cases h : Dict.get? members key with
  | none => rfl
  | some v => cases hnull : v.isNull <;> simp [Option.filter, hnull]

end Value

open Value (mapText mapTextAt mapTexts)

namespace Options

variable {name : String} (f : String → String)

/-- The option itself has its text changed. -/
theorem string?_mapTexts_self (o : Options) :
    Options.string? (mapTexts name f o) name = (o.string? name).map f := by
  rw [Options.string?, Options.string?, mapTexts, Dict.get?_mapEntries]
  cases Dict.get? o name with
  | none => rfl
  | some v => cases v <;> simp [mapTextAt, mapText, Value.asString?]

/-- Other texts are read as they were. -/
theorem string?_mapTexts_of_ne {key : String} (h : key ≠ name) (o : Options) :
    Options.string? (mapTexts name f o) key = o.string? key := by
  rw [Options.string?, Options.string?, Value.get?_mapTexts_of_ne f h]

theorem bool?_mapTexts_of_ne {key : String} (h : key ≠ name) (o : Options) :
    Options.bool? (mapTexts name f o) key = o.bool? key := by
  rw [Options.bool?, Options.bool?, Value.get?_mapTexts_of_ne f h]

theorem float?_mapTexts_of_ne {key : String} (h : key ≠ name) (o : Options) :
    Options.float? (mapTexts name f o) key = o.float? key := by
  rw [Options.float?, Options.float?, Value.get?_mapTexts_of_ne f h]

theorem strings_mapTexts_of_ne {key : String} (h : key ≠ name) (o : Options) :
    Options.strings (mapTexts name f o) key = o.strings key := by
  rw [Options.strings, Options.strings, Value.get?_mapTexts_of_ne f h]

end Options

/-! ## Checked options -/

namespace Checker

/-- If this is the option of the name, it takes any text, and has no default. -/
def TakesAnyText (name : String) (o : OptionSpec) : Prop :=
  o.name = name → o.value.default = none ∧ ∀ text, o.checkValue (.string text) = .ok ()

/-- Checking an option depends on what is given for it, and on nothing else of the section. -/
theorem checkOption_congr {supplied supplied' : Dict Value} {o : OptionSpec}
    (h : Value.given? supplied o.name = Value.given? supplied' o.name) (p : Place) :
    checkOption p supplied o = checkOption p supplied' o := by
  simp only [checkOption, h]

/-- A usable value is taken, with a warning if the option is deprecated. -/
theorem checkOption_of_usable {o : OptionSpec} {p : Place} {supplied : Dict Value} {v : Value}
    (hgiven : Value.given? supplied o.name = some v) (hv : o.checkValue v = .ok ()) :
    checkOption p supplied o = (.ok (some v), deprecation p o) := by
  simp only [checkOption, hgiven, hv]

/-- What is left of an option was given or is its default. -/
theorem given_or_default {o : OptionSpec} {p : Place} {supplied : Dict Value} {v : Value}
    (h : (checkOption p supplied o).1 = .ok (some v)) :
    Value.given? supplied o.name = some v ∨ o.value.default = some v := by
  rcases judged p supplied o with ⟨e, herror, -⟩ | ⟨hsettled, -⟩
  · rw [herror] at h
    cases h
  · rw [hsettled] at h
    have hv : settled supplied o = some v := by
      injection h
    unfold settled at hv
    split at hv
    · exact Or.inr hv
    · rename_i w hgiven
      split at hv
      · exact Or.inl (hgiven.trans hv)
      · exact Or.inr hv

variable {name : String} {o : OptionSpec} (f : String → String)

/-- Where nothing changes in what is given, nothing changes in what is left. -/
theorem checkOption_mapTexts_of_fixed (ho : TakesAnyText name o) (p : Place) {supplied : Dict Value}
    (h : ∀ v, Value.given? supplied o.name = some v → mapTextAt name f o.name v = v) :
    checkOption p (mapTexts name f supplied) o =
      ((checkOption p supplied o).1.map (Option.map (mapTextAt name f o.name)),
        (checkOption p supplied o).2) := by
  have hgiven : Value.given? (mapTexts name f supplied) o.name =
      Value.given? supplied o.name := by
    rw [Value.given?_mapTexts]
    cases hv : Value.given? supplied o.name with
    | none => rfl
    | some v => rw [Option.map_some, h v hv]
  have hdefault : ∀ d, o.value.default = some d → mapTextAt name f o.name d = d := by
    intro d hd
    by_cases hname : o.name = name
    · rw [(ho hname).1] at hd
      cases hd
    · exact Value.mapTextAt_of_ne f hname d
  -- what is left was given or is a default, and neither of them changes
  rw [checkOption_congr hgiven]
  refine Prod.ext ?_ rfl
  rcases hresult : (checkOption p supplied o).1 with e | (_ | v)
  · rfl
  · rfl
  · have hv : mapTextAt name f o.name v = v := (given_or_default hresult).elim (h v) (hdefault v)
    simp [Except.map, hv]

/-- What becomes of the changed value of an option is what becomes of its value, changed. -/
theorem checkOption_mapTexts (ho : TakesAnyText name o) (p : Place) (supplied : Dict Value) :
    checkOption p (mapTexts name f supplied) o =
      ((checkOption p supplied o).1.map (Option.map (mapTextAt name f o.name)),
        (checkOption p supplied o).2) := by
  by_cases hnamed : o.name = name ∧ ∃ text, Value.given? supplied o.name = some (.string text)
  · -- one text passes as well as another, and nothing is said of it
    obtain ⟨hname, text, hgiven⟩ := hnamed
    have hmapped : mapTextAt name f o.name (.string text) = .string (f text) := if_pos hname
    have hgiven' : Value.given? (mapTexts name f supplied) o.name = some (.string (f text)) := by
      rw [Value.given?_mapTexts, hgiven, Option.map_some, hmapped]
    rw [checkOption_of_usable hgiven ((ho hname).2 text),
      checkOption_of_usable hgiven' ((ho hname).2 (f text)), Except.map, Option.map_some, hmapped]
  · refine checkOption_mapTexts_of_fixed f ho p fun v hv => ?_
    by_cases hname : o.name = name
    · rw [mapTextAt, if_pos hname]
      cases v with
      | string text => exact absurd ⟨hname, text, hv⟩ hnamed
      | _ => rfl
    · exact Value.mapTextAt_of_ne f hname v

/-- Where an option takes any text, changing its text changes the text in the result, and neither
the errors nor the reports. -/
theorem checkOptions_mapTexts {options : List OptionSpec}
    (h : ∀ o ∈ options, TakesAnyText name o) (p : Place) (supplied : Dict Value)
    (found : Options) :
    checkOptions p (mapTexts name f supplied) (mapTexts name f found) options =
      ((checkOptions p supplied found options).1.map (mapTexts name f),
        (checkOptions p supplied found options).2) := by
  induction options generalizing found with
  | nil => rfl
  | cons o rest ih =>
    obtain ⟨ho, hrest⟩ := List.forall_mem_cons.mp h
    have hfirst := checkOption_mapTexts f ho p supplied
    rcases hcheck : checkOption p supplied o with ⟨e | (_ | v), reports⟩
    · rw [hcheck] at hfirst
      simp [checkOptions, hcheck, hfirst, Except.map]
    · rw [hcheck] at hfirst
      simp [checkOptions, hcheck, hfirst, Except.map, ih hrest]
    · rw [hcheck] at hfirst
      have hwrite : Dict.set (mapTexts name f found) o.name (mapTextAt name f o.name v) =
          mapTexts name f (Dict.set found o.name v) :=
        Dict.set_mapEntries (mapTextAt name f) found o.name v
      simp [checkOptions, hcheck, hfirst, Except.map, hwrite, ih hrest]

/-- To change the text of an option that takes any text comes to the same before the check and after
it. -/
theorem check_mapTexts {c : Checker} (h : ∀ o ∈ c.options, TakesAnyText name o)
    (supplied : Dict Value) :
    c.check (mapTexts name f supplied) =
      ((c.check supplied).1.map (mapTexts name f), (c.check supplied).2) := by
  have hoptions := checkOptions_mapTexts f h c.place supplied []
  have hkeys : c.unknownKeys (mapTexts name f supplied) = c.unknownKeys supplied := by
    rw [unknownKeys, unknownKeys, mapTexts, Dict.keys_mapEntries]
  change checkOptions _ (mapTexts name f supplied) [] _ = _ at hoptions
  rcases hcheck : checkOptions c.place supplied [] c.options with ⟨e | found, reports⟩ <;>
    simp [check, hoptions, hcheck, hkeys, Except.map]

end Checker

end ClusterMonitor

import ClusterMonitor.Proofs.Options.Texts
import ClusterMonitor.Schema.Builtin

/-!
# The built-in schema at work

What the specifications of the built-in options admit, and what becomes of members that are all
admitted.

* `Schema.admits_toggle`, `Schema.admits_textLike`, `Schema.AdmitsSeconds`,
  `Schema.admits_ofStrings` — what the kinds of options admit.
* `Schema.takesAnyText_builtin` — the options that take any text.
* `Schema.check_builtin_members` — what the checker makes of admitted members.
-/

namespace ClusterMonitor.Schema

theorem admits_toggle (default b : Bool) : (toggle default).Admits (.bool b) := ⟨rfl, rfl⟩

theorem admits_textLike (shown text : String) : (textLike shown).Admits (.string text) :=
  ⟨rfl, rfl⟩

/-- URLs and passwords are texts of any kind. -/
theorem exists_textLike {name : String} (hname : name = "url" ∨ name = "password") :
    ∀ o ∈ builtinInstances, o.name = name → ∃ shown, o.value = textLike shown := by
  intro o ho hoption
  have hsome : ∃ o' ∈ builtinInstances, o'.name = name ∧ ∃ shown, o'.value = textLike shown := by
    rcases hname with rfl | rfl
    · exact ⟨_, List.mem_cons_self, rfl, _, rfl⟩
    · exact ⟨_, List.mem_of_getElem? (i := 3) rfl, rfl, _, rfl⟩
  obtain ⟨o', ho', hoption', hvalue⟩ := hsome
  have honce := declaresOnce_of_check check_builtin .instances
  rwa [List.inj_on_of_nodup_map honce ho ho' (hoption.trans hoption'.symm)]

/-- The built-in schema puts no condition on the text of a URL or a password. -/
theorem takesAnyText_builtin {name : String} (hname : name = "url" ∨ name = "password") :
    ∀ o ∈ builtinInstances, Checker.TakesAnyText name o := by
  intro o ho hoption
  obtain ⟨shown, hvalue⟩ := exists_textLike hname o ho hoption
  refine ⟨by rw [hvalue]; rfl, fun text => (o.checkValue_eq_ok_iff _).mpr ?_⟩
  rw [hvalue]
  exact admits_textLike shown text

/-- An option for a text admits the text of a field, if it is there. -/
theorem admits_textLike_of_map {α : Type} {text : α → String} {v : Option α} {shown : String}
    {x : Value} (h : (v.map fun a => Value.string (text a)) = some x) :
    (textLike shown).Admits x := by
  obtain ⟨a, -, rfl⟩ := Option.map_eq_some_iff.mp h
  exact admits_textLike shown (text a)

/-- A number of seconds that every option for a duration admits; all have the same bounds. -/
def AdmitsSeconds (x : Float) : Prop :=
  ∀ shown default, (duration shown default).Admits (.float x)

/-- An integer is admitted as the float that it stands for. -/
theorem admitsSeconds_of_admits {shown : Int} {default : Option Value} {v : Value} {x : Float}
    (h : (duration shown default).Admits v) (hx : v.asFloat? = some x) : AdmitsSeconds x := by
  have hrange := h.2
  simp only [ValueSpec.checkAllowed, hx] at hrange
  exact fun _ _ => ⟨rfl, hrange⟩

/-- A number that was taken for a duration is one that a duration admits. -/
theorem admitsSeconds_of_float? {o : Options} {name : String} {shown : Int}
    {default : Option Value} {x : Float}
    (ho : ∀ v, Dict.get? o name = some v → (duration shown default).Admits v)
    (hx : o.float? name = some x) : AdmitsSeconds x := by
  obtain ⟨v, hv, hfloat⟩ := Option.bind_eq_some_iff.mp hx
  exact admitsSeconds_of_admits (ho v hv) hfloat

/-- A duration admits the finite numbers from zero to a day. -/
theorem admitsSeconds_of_bounds {x : Float} (hfinite : x.isFinite = true) (hlow : ¬ x < 0.0)
    (hhigh : ¬ 86400.0 < x) : AdmitsSeconds x := by
  intro shown default
  have hrange : (duration shown default).checkRange x = .ok () := by
    simp [ValueSpec.checkRange, duration, hfinite, Option.filter, hlow, hhigh]
  exact ⟨rfl, hrange⟩

/-- Such a number has a document form as a number. -/
theorem AdmitsSeconds.ofFloat_eq {x : Float} (h : AdmitsSeconds x) :
    Value.ofFloat x = .float x := by
  have hfinite := ((ValueSpec.checkRange_eq_ok_iff _ x).mp (h 0 none).2).1
  simp [Value.ofFloat, hfinite]

/-- An option for texts admits every list of texts. -/
theorem admits_ofStrings {s items : ValueSpec} (htype : s.type = .array)
    (hitems : s.items = some items) (hitem : items.type = .string) (hallowed : s.allowed = [])
    (texts : List String) : s.Admits (.ofStrings texts) := by
  constructor
  · refine (s.checkType_eq_ok_iff _).mpr ⟨by rw [htype]; rfl, ?_⟩
    rintro items' elements hitems' ⟨⟩ e he
    obtain ⟨text, -, rfl⟩ := List.mem_map.mp he
    cases hitems.symm.trans hitems'
    rw [hitem]
    rfl
  · rw [ValueSpec.checkAllowed_of_not_isNumeric (by rw [htype]; rfl)]
    exact (s.checkListed_eq_ok_iff _).mpr (Or.inl hallowed)

/-- The whitelist of an instance is an option of its own: a mapping, with no default. -/
theorem exists_services : ∃ o ∈ builtinInstances,
    o.name = "services" ∧ o.value.type = .object ∧ o.value.default = none :=
  ⟨_, List.mem_cons_of_mem _ List.mem_cons_self, rfl, rfl, rfl⟩

/-- No built-in option is deprecated. -/
theorem current_builtin (p : Checker.Place) :
    ∀ o ∈ (Checker.ofPlace builtin p).options, o.deprecated = none := by
  cases p <;>
    simp [Checker.ofPlace, Checker.ofInitConfig, Checker.ofInstance, builtin, builtinInitConfig,
      builtinInstances]

/-- Members with different keys, each admitted by an option, go through the checker without a
report; the defaults stand beside them. -/
theorem check_builtin_members {p : Checker.Place} {members : Dict Value}
    (hnodup : (Dict.keys members).Nodup)
    (hdeclared : Dict.keys members ⊆ (Checker.ofPlace builtin p).options.map (·.name))
    (hrequired : ∀ o ∈ (Checker.ofPlace builtin p).options, o.required = true →
      ∃ v, Dict.get? members o.name = some v)
    (hadmits : ∀ o ∈ (Checker.ofPlace builtin p).options, ∀ v,
      Dict.get? members o.name = some v → o.value.Admits v) :
    ∃ r, (Checker.ofPlace builtin p).check (Dict.ofPairs members) = (.ok r, []) ∧
      ∀ o ∈ (Checker.ofPlace builtin p).options,
        Dict.get? r o.name = (Dict.get? members o.name).or o.value.default := by
  have hget := Dict.get?_ofPairs_of_nodup hnodup
  simp only [← hget] at hrequired hadmits ⊢
  refine Checker.check_of_admitted (Checker.consistent_ofPlace check_builtin p)
    (current_builtin p) hrequired hadmits ?_
  intro name hname
  exact List.mem_map.mp (hdeclared ((Dict.mem_keys_ofPairs members name).mp hname))

end ClusterMonitor.Schema

import ClusterMonitor.Config.Engine
import ClusterMonitor.Proofs.Value
import Mathlib.Data.List.Induction

/-!
# What layers leave at a path

A merged document is read off its layers path by path: the last layer that says anything about a
path decides what is there, and what earlier layers say about other paths stays.

* `IsLast` — an item is the last one of a list that has a property.
* `Value.at?` — the value at the end of a path of keys.
* `Value.Touches` — a layer says something about a path.
* `Value.get?_overlay_object` — one member of a value with another laid over it.
* `Value.at?_overlay_of_touches`, `Value.at?_overlay_of_not_touches` — a layer replaces what it
  touches and leaves the rest alone.
* `Value.at?_foldl_overlay_iff` — the same for many layers: the last one that touches a path decides.
* `Engine.document_at_iff` — the merged document of an engine.
-/

namespace ClusterMonitor

/-! ## The last of its kind -/

/-- The item is the last one of a list that has the property. -/
def IsLast {α : Type} (P : α → Prop) (items : List α) (x : α) : Prop :=
  ∃ before after, items = before ++ x :: after ∧ P x ∧ ∀ later ∈ after, ¬ P later

section IsLast

variable {α : Type} {P : α → Prop} {last : α}

/-- An item of a list with one more at the end is that one, or is followed by it. -/
theorem cases_of_concat_eq {items before after : List α} {x : α}
    (h : items ++ [last] = before ++ x :: after) :
    (after = [] ∧ x = last) ∨ ∃ between, after = between ++ [last] ∧
      items = before ++ x :: between := by
  cases after using List.reverseRecOn with
  | nil =>
    obtain ⟨-, hlast⟩ := List.append_inj' h rfl
    exact Or.inl ⟨rfl, (List.head_eq_of_cons_eq hlast).symm⟩
  | append_singleton between final =>
    rw [← List.cons_append, ← List.append_assoc] at h
    obtain ⟨hitems, hlast⟩ := List.append_inj' h rfl
    exact Or.inr ⟨between, by rw [hlast], hitems⟩

/-- If the last item has the property, it is the last one that has it. -/
theorem isLast_concat_of_pos (h : P last) (items : List α) (x : α) :
    IsLast P (items ++ [last]) x ↔ x = last := by
  constructor
  · rintro ⟨before, after, hsplit, -, hafter⟩
    rcases cases_of_concat_eq hsplit with ⟨-, hx⟩ | ⟨between, rfl, -⟩
    · exact hx
    · exact absurd h (hafter last (by simp))
  · rintro rfl
    exact ⟨items, [], rfl, h, by simp⟩

/-- If it does not, the last one that has it is among the others. -/
theorem isLast_concat_of_neg (h : ¬ P last) (items : List α) (x : α) :
    IsLast P (items ++ [last]) x ↔ IsLast P items x := by
  constructor
  · rintro ⟨before, after, hsplit, hx, hafter⟩
    rcases cases_of_concat_eq hsplit with ⟨-, rfl⟩ | ⟨between, rfl, hitems⟩
    · exact absurd hx h
    · exact ⟨before, between, hitems, hx, fun later hl => hafter later (by simp [hl])⟩
  · rintro ⟨before, after, rfl, hx, hafter⟩
    refine ⟨before, after ++ [last], by simp, hx, fun later hl => ?_⟩
    rcases List.mem_append.mp hl with hl | hl
    · exact hafter later hl
    · exact List.mem_singleton.mp hl ▸ h

end IsLast

namespace Value

/-! ## Paths into values -/

def IsObject : Value → Prop
  | .object _ => True
  | _ => False

/-- The value at the end of a path of keys. -/
def at? : Value → List String → Option Value
  | v, [] => some v
  | v, key :: path => (v.get? key).bind fun w => w.at? path

/-- A layer says something about a path: it ends the path, or a shorter one on the way, with a value
that is no object, or it has an object at the very path. -/
def Touches (layer : Value) (path : List String) : Prop :=
  (∃ begun v, begun <+: path ∧ layer.at? begun = some v ∧ ¬ v.IsObject) ∨
    ∃ v, layer.at? path = some v ∧ v.IsObject

theorem at?_cons (v : Value) (key : String) (path : List String) :
    v.at? (key :: path) = (v.get? key).bind fun w => w.at? path := rfl

/-- Every layer touches the whole document. -/
theorem touches_nil (layer : Value) : layer.Touches [] := by
  by_cases h : layer.IsObject
  · exact Or.inr ⟨layer, rfl, h⟩
  · exact Or.inl ⟨[], layer, List.nil_prefix, rfl, h⟩

/-- A layer touches each place where it has a value. -/
theorem touches_of_at? {layer v : Value} {path : List String} (h : layer.at? path = some v) :
    layer.Touches path := by
  by_cases hv : v.IsObject
  · exact Or.inr ⟨v, h, hv⟩
  · exact Or.inl ⟨path, v, List.prefix_rfl, h, hv⟩

/-- What is no object touches every place, since it replaces all that was there. -/
theorem touches_of_not_isObject {layer : Value} (h : ¬ layer.IsObject) (path : List String) :
    layer.Touches path :=
  Or.inl ⟨[], layer, List.nil_prefix, rfl, h⟩

/-- An object says about a path what its member at the first key says about the rest. -/
theorem touches_object_cons (members : Dict Value) (key : String) (path : List String) :
    (Value.object members).Touches (key :: path) ↔
      ∃ w, Dict.get? members key = some w ∧ w.Touches path := by
  constructor
  · rintro (⟨begun, v, hbegun, hv, hno⟩ | ⟨v, hv, hobject⟩)
    · cases begun with
      | nil =>
        cases hv
        exact absurd trivial hno
      | cons first begun =>
        obtain ⟨rfl, hrest⟩ := List.cons_prefix_cons.mp hbegun
        obtain ⟨w, hw, hv⟩ := Option.bind_eq_some_iff.mp hv
        exact ⟨w, hw, Or.inl ⟨begun, v, hrest, hv, hno⟩⟩
    · obtain ⟨w, hw, hv⟩ := Option.bind_eq_some_iff.mp hv
      exact ⟨w, hw, Or.inr ⟨v, hv, hobject⟩⟩
  · rintro ⟨w, hw, ⟨begun, v, hbegun, hv, hno⟩ | ⟨v, hv, hobject⟩⟩
    · exact Or.inl ⟨key :: begun, v, List.cons_prefix_cons.mpr ⟨rfl, hbegun⟩,
        Option.bind_eq_some_iff.mpr ⟨w, hw, hv⟩, hno⟩
    · exact Or.inr ⟨v, Option.bind_eq_some_iff.mpr ⟨w, hw, hv⟩, hobject⟩

/-! ## One layer over another -/

/-- A value laid over what may be there. -/
def overlayOn (below : Option Value) (v : Value) : Value := below.elim v fun b => b.overlay v

/-- What is no object replaces what is below it. -/
theorem overlay_of_not_isObject (base : Value) {layer : Value} (h : ¬ layer.IsObject) :
    base.overlay layer = layer := by
  cases layer with
  | object members => exact absurd trivial h
  | _ => simp only [overlay]

theorem overlayMembers_cons (base : Dict Value) (key : String) (v : Value)
    (rest : List (String × Value)) :
    overlayMembers base ((key, v) :: rest) =
      overlayMembers (Dict.set base key (overlayOn (Dict.get? base key) v)) rest := by
  rw [overlayMembers]
  cases Dict.get? base key <;> rfl

/-- A member of a layer is laid over the member below it; the other members stay. -/
theorem get?_overlayMembers {members : Dict Value} (h : (Dict.keys members).Nodup)
    (base : Dict Value) (name : String) :
    Dict.get? (overlayMembers base members) name =
      ((Dict.get? members name).map (overlayOn (Dict.get? base name))).or
        (Dict.get? base name) := by
  induction members generalizing base with
  | nil => simp [overlayMembers]
  | cons m rest ih =>
    obtain ⟨key, v⟩ := m
    obtain ⟨hhead, hrest⟩ := List.nodup_cons.mp h
    rw [overlayMembers_cons, ih hrest, Dict.get?_set]
    by_cases hname : name = key
    · -- the key is written once, by its own member
      subst hname
      have hnone : Dict.get? rest name = none := by
        rw [← Option.not_isSome_iff_eq_none, ← Dict.mem_keys_iff]
        exact hhead
      simp [Dict.get?, hnone]
    · have hne : ¬ key = name := fun hk => hname hk.symm
      simp [Dict.get?, hname, hne]

/-- A member of an object that is laid over something is laid over what is there at its key. -/
theorem get?_overlay_object {members : Dict Value} (h : (Value.object members).WellFormed)
    (base : Value) (name : String) :
    (base.overlay (.object members)).get? name =
      ((Dict.get? members name).map (overlayOn (base.get? name))).or (base.get? name) := by
  cases base with
  | object below => exact get?_overlayMembers h.nodup_keys below name
  | _ =>
    have hid : overlayOn none = id := rfl
    simp [overlay, Value.get?, hid]

/-- What a layer touches is as the layer has it. -/
theorem at?_overlay_of_touches {layer : Value} (hwell : layer.WellFormed) {path : List String}
    (h : layer.Touches path) (base : Value) {v : Value} (hv : ¬ v.IsObject) :
    (base.overlay layer).at? path = some v ↔ layer.at? path = some v := by
  induction path generalizing base layer with
  | nil =>
    cases layer with
    | object members =>
      -- an object stays an object, whatever it is laid over
      have hmerged : (base.overlay (.object members)).IsObject := by cases base <;> trivial
      constructor
      · rintro ⟨⟩
        exact absurd hmerged hv
      · rintro ⟨⟩
        exact absurd trivial hv
    | _ => rw [overlay_of_not_isObject base id]
  | cons key path ih =>
    cases layer with
    | object members =>
      obtain ⟨w, hw, hrest⟩ := (touches_object_cons members key path).mp h
      rw [at?_cons, at?_cons, get?_overlay_object hwell, Value.get?, hw]
      cases base.get? key with
      | none => rfl
      | some below => exact ih (hwell.get?_object hw) hrest below
    | _ => rw [overlay_of_not_isObject base id]

/-- What a layer does not touch is as it was. -/
theorem at?_overlay_of_not_touches {layer : Value} (hwell : layer.WellFormed) {path : List String}
    (h : ¬ layer.Touches path) (base : Value) :
    (base.overlay layer).at? path = base.at? path := by
  induction path generalizing base layer with
  | nil => exact absurd (touches_nil layer) h
  | cons key path ih =>
    cases layer with
    | object members =>
      rw [at?_cons, at?_cons, get?_overlay_object hwell]
      cases hw : Dict.get? members key with
      | none => rfl
      | some w =>
        have hrest : ¬ w.Touches path := fun ht =>
          h ((touches_object_cons members key path).mpr ⟨w, hw, ht⟩)
        cases base.get? key with
        | none =>
          -- nothing was there, and the layer adds nothing
          refine Option.eq_none_iff_forall_ne_some.mpr fun v hv => ?_
          exact hrest (touches_of_at? hv)
        | some below => exact ih (hwell.get?_object hw) hrest below
    | _ => exact absurd (touches_of_not_isObject id _) h

/-! ## Many layers -/

/-- The layer is the last of some layers that says anything about the path. -/
def IsLastTouching (layers : List Value) (path : List String) (layer : Value) : Prop :=
  ∃ before after, layers = before ++ layer :: after ∧ layer.Touches path ∧
    ∀ later ∈ after, ¬ later.Touches path

/-- If the last layer touches a place, it is the last one that does. -/
theorem isLastTouching_concat_of_touches {last : Value} {path : List String}
    (h : last.Touches path) (layers : List Value) (layer : Value) :
    IsLastTouching (layers ++ [last]) path layer ↔ layer = last :=
  isLast_concat_of_pos (P := fun l : Value => l.Touches path) h layers layer

/-- If it does not, the last one that does is among the others. -/
theorem isLastTouching_concat_of_not_touches {last : Value} {path : List String}
    (h : ¬ last.Touches path) (layers : List Value) (layer : Value) :
    IsLastTouching (layers ++ [last]) path layer ↔ IsLastTouching layers path layer :=
  isLast_concat_of_neg (P := fun l : Value => l.Touches path) h layers layer

/-- The last layer that touches a path decides what is there. -/
theorem at?_foldl_overlay_iff {layers : List Value} (hwell : ∀ layer ∈ layers, layer.WellFormed)
    {base : Value} {path : List String} {v : Value} (hbase : base.at? path ≠ some v)
    (hv : ¬ v.IsObject) :
    (layers.foldl overlay base).at? path = some v ↔
      ∃ layer, IsLastTouching layers path layer ∧ layer.at? path = some v := by
  induction layers using List.reverseRecOn with
  | nil => simpa [IsLastTouching] using hbase
  | append_singleton layers last ih =>
    have hlast : last.WellFormed := hwell last (by simp)
    rw [List.foldl_append, List.foldl_cons, List.foldl_nil]
    by_cases h : last.Touches path
    · simp only [isLastTouching_concat_of_touches h, exists_eq_left]
      exact at?_overlay_of_touches hlast h _ hv
    · simp only [isLastTouching_concat_of_not_touches h]
      rw [at?_overlay_of_not_touches hlast h]
      exact ih fun layer hl => hwell layer (by simp [hl])

end Value

namespace Engine

/-- Sources that can all be read are laid over each other in their order. -/
theorem overlaySources_eq_foldl {s : Surroundings} {sources : List Source} {layers : List Value}
    (h : List.Forall₂ (fun source layer => source.read s = .ok layer) sources layers)
    (below : Value) : overlaySources s below sources = .ok (layers.foldl Value.overlay below) := by
  induction h generalizing below with
  | nil => rfl
  | cons hread _ ih =>
    rw [overlaySources, hread]
    exact ih _

/-- The merged document has a value that is no object at a path if some layer says anything about the
path, and the last one that does has the value there. -/
theorem document_at_iff (e : Engine) (s : Surroundings) (layers : List Value)
    (hsome : e.sources ≠ [])
    (hread : List.Forall₂ (fun source layer => source.read s = .ok layer) e.sources layers)
    (hwell : ∀ layer ∈ layers, layer.WellFormed) :
    ∃ document, e.document s = .ok document ∧
      ∀ (path : List String) (v : Value), path ≠ [] → ¬ v.IsObject →
        (document.at? path = some v ↔
          ∃ layer, Value.IsLastTouching layers path layer ∧ layer.at? path = some v) := by
  refine ⟨layers.foldl Value.overlay (.object []), ?_, fun path v hpath hv => ?_⟩
  · rw [document, if_neg (by simpa using hsome)]
    exact overlaySources_eq_foldl hread _
  · have hempty : (Value.object []).at? path ≠ some v := by
      cases path with
      | nil => exact absurd rfl hpath
      | cons key path => simp [Value.at?_cons, Value.get?]
    exact Value.at?_foldl_overlay_iff hwell hempty hv

/-- A mapping, a text in its place, and a mapping again: what the last layer does not name is gone
where the text stood, and is as it was elsewhere. -/
theorem document_at_iff_mapping_replaced :
    let first := Value.object
      [("init_config", .object [("service", .null), ("timeout", .int 5)]), ("logs", .array [.null])]
    let second := Value.object [("init_config", .string "off")]
    let third := Value.object [("init_config", .object [("service", .array [])])]
    let e : Engine := { sources := [.given first, .given second, .given third] }
    ∃ document, e.document {} = .ok document ∧ e.sources ≠ [] ∧
      (∀ layer ∈ [first, second, third], layer.WellFormed) ∧
      document.at? ["init_config", "service"] = some (.array []) ∧
      document.at? ["init_config", "timeout"] ≠ some (.int 5) ∧
      document.at? ["logs"] = some (.array [.null]) := by
  intro first second third e
  have hsome : e.sources ≠ [] := List.cons_ne_nil _ _
  have hread : List.Forall₂ (fun source layer => Source.read {} source = .ok layer) e.sources
      [first, second, third] := .cons rfl (.cons rfl (.cons rfl .nil))
  have hwell : ∀ layer ∈ [first, second, third], layer.WellFormed := by
    rw [List.forall_mem_cons, List.forall_mem_cons, List.forall_mem_singleton]
    simp only [first, second, third, Value.WellFormed, Value.WellFormedMembers,
      Value.WellFormedItems, Dict.Ordered]
    decide
  obtain ⟨document, hdocument, hat⟩ := document_at_iff e {} _ hsome hread hwell
  refine ⟨document, hdocument, hsome, hwell, ?_, ?_, ?_⟩
  · have htouches : third.Touches ["init_config", "service"] := Value.touches_of_at? rfl
    exact (hat _ _ (List.cons_ne_nil _ _) id).mpr
      ⟨third, ⟨[first, second], [], rfl, htouches, by simp⟩, rfl⟩
  · -- the text is the last that is said of this option, and it has no members
    have hthird : ¬ third.Touches ["init_config", "timeout"] := by
      simp [third, Value.touches_object_cons, Dict.get?]
    have hsecond : second.Touches ["init_config", "timeout"] :=
      Or.inl ⟨["init_config"], .string "off", ⟨["timeout"], rfl⟩, rfl, id⟩
    intro h
    obtain ⟨layer, hlast, hlayer⟩ := (hat _ _ (List.cons_ne_nil _ _) id).mp h
    have hlast : Value.IsLastTouching [first, second] ["init_config", "timeout"] layer :=
      (Value.isLastTouching_concat_of_not_touches hthird [first, second] layer).mp hlast
    cases (Value.isLastTouching_concat_of_touches hsecond [first] layer).mp hlast
    cases hlayer
  · have htouches : first.Touches ["logs"] := Value.touches_of_at? rfl
    have hlater : ∀ later ∈ [second, third], ¬ later.Touches ["logs"] := by
      simp [second, third, Value.touches_object_cons, Dict.get?]
    exact (hat _ _ (List.cons_ne_nil _ _) id).mpr
      ⟨first, ⟨[], [second, third], rfl, htouches, hlater⟩, rfl⟩

end Engine

end ClusterMonitor

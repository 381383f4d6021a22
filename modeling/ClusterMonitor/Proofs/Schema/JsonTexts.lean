import ClusterMonitor.Proofs.Json.RoundTrip
import ClusterMonitor.Proofs.Schema.RoundTrip

/-!
# Schemas through JSON texts

The document form of a schema is a value, and a JSON text is one way to keep it. A sound schema has a
document form that JSON can hold, so that nothing is lost in its text but what the reader of JSON
texts loses of any value: it goes down a number of levels, and it rounds some long decimals to the
float beside the one that was written.

* `ValueSpec.storable_toValue`, `OptionSpec.storable_toValue`, `LogSource.storable_toValue`,
  `Schema.storable_toValue` — the document forms can be held by JSON.
* `Schema.decode_read?_write` — schemas.
* `Schema.read?_write_loses` — a bound that is read as another float, and items too deep to be read.
-/

namespace ClusterMonitor

/-! ## Values by their parts -/

namespace Value

theorem storable_string (text : String) : (Value.string text).Storable := ⟨trivial, trivial⟩

theorem storable_bool (b : Bool) : (Value.bool b).Storable := ⟨trivial, trivial⟩

theorem storable_int {n : Int} (h : (Value.int n).Fits) : (Value.int n).Storable := ⟨trivial, h⟩

/-- A list can be held if the form of each entry can. -/
theorem storable_array_map {α : Type} {xs : List α} {f : α → Value}
    (h : ∀ x ∈ xs, (f x).Storable) : (Value.array (xs.map f)).Storable := by
  refine storable_array.mpr fun v hv => ?_
  obtain ⟨x, hx, rfl⟩ := List.mem_map.mp hv
  exact h x hx

theorem storable_ofStrings (texts : List String) : (ofStrings texts).Storable :=
  storable_array_map fun text _ => storable_string text

theorem storable_ofFloat {x : Float} (h : x.isFinite = true) : (ofFloat x).Storable := by
  rw [ofFloat_of_isFinite h]
  exact ⟨trivial, h⟩

/-- A member that may be left out can be held if its value can. -/
theorem storable_of_mem_part {key : String} {v : Option Value}
    (h : ∀ x, v = some x → x.Storable) : ∀ m ∈ Dict.part key v, m.2.Storable := by
  intro m hm
  cases v with
  | none => cases hm
  | some x =>
    obtain rfl := List.mem_singleton.mp hm
    exact h x rfl

/-- So can the member for a field that need not be given. -/
theorem storable_of_mem_part_map {α : Type} {key : String} {given : Option α} {f : α → Value}
    (h : ∀ x, given = some x → (f x).Storable) :
    ∀ m ∈ Dict.part key (given.map f), m.2.Storable := by
  refine storable_of_mem_part fun v hv => ?_
  obtain ⟨x, hx, rfl⟩ := Option.map_eq_some_iff.mp hv
  exact h x hx

/-- So can the member for a field that is left out where it says nothing. -/
theorem storable_of_mem_part_unless {key : String} {silent : Prop} [Decidable silent] {v : Value}
    (h : v.Storable) : ∀ m ∈ Dict.part key (if silent then none else some v), m.2.Storable := by
  refine storable_of_mem_part fun w hw => ?_
  split at hw
  · cases hw
  · cases hw
    exact h

end Value

/-! ## Document forms -/

/-- A specification has a document form that JSON can hold: by induction on the nesting of its
items. -/
theorem ValueSpec.storable_toValue {s : ValueSpec} (h : s.Sound) : s.toValue.Storable := by
  induction h with
  | @intro s hexample hdefault hminimum hmaximum _ ih =>
    rw [toValue_eq]
    refine Value.storable_object.mpr ⟨Dict.ordered_of_keys_sublist s.keys_members (by decide), ?_⟩
    simp only [members, List.forall_mem_append]
    refine ⟨⟨⟨⟨⟨⟨?_, ?_⟩, ?_⟩, ?_⟩, ?_⟩, ?_⟩, ?_⟩
    · exact Value.storable_of_mem_part fun v hv => (hdefault v hv).2
    · exact Value.storable_of_mem_part_unless (Value.storable_ofStrings s.allowed)
    · exact Value.storable_of_mem_part fun v hv => (hexample v hv).2
    · exact Value.storable_of_mem_part_map ih
    · exact Value.storable_of_mem_part_map fun x hx => Value.storable_ofFloat (hmaximum x hx)
    · exact Value.storable_of_mem_part_map fun x hx => Value.storable_ofFloat (hminimum x hx)
    · exact List.forall_mem_singleton.mpr (Value.storable_string _)

/-- An option has a document form that JSON can hold. -/
theorem OptionSpec.storable_toValue {o : OptionSpec} (h : o.Sound) : o.toValue.Storable := by
  rw [toValue_eq]
  refine Value.storable_object.mpr ⟨Dict.ordered_of_keys_sublist o.keys_members (by decide), ?_⟩
  have hflag (b : Bool) (v : Value) (hv : (if b then some (Value.bool true) else none) = some v) :
      v.Storable := by
    cases b <;> cases hv
    exact Value.storable_bool true
  simp only [members, List.forall_mem_append]
  refine ⟨⟨⟨⟨⟨⟨?_, ?_⟩, ?_⟩, ?_⟩, ?_⟩, ?_⟩, ?_⟩
  · exact Value.storable_of_mem_part_map fun note _ => Value.storable_string note
  · exact List.forall_mem_singleton.mpr (Value.storable_string _)
  · have hbounds := h.displayPriority
    exact Value.storable_of_mem_part_unless (Value.storable_int ⟨by omega, by omega⟩)
  · exact List.forall_mem_singleton.mpr (Value.storable_string _)
  · exact Value.storable_of_mem_part (hflag o.required)
  · exact Value.storable_of_mem_part (hflag o.secret)
  · exact List.forall_mem_singleton.mpr (ValueSpec.storable_toValue h.value)

/-- A rule has a document form that JSON can hold. -/
theorem Rule.storable_toValue (r : Rule) : r.toValue.Storable := by
  rw [toValue_eq]
  refine Value.storable_object.mpr ⟨Dict.ordered_of_keys_sublist r.keys_members (by decide), ?_⟩
  simp only [members, List.forall_mem_append, List.forall_mem_cons]
  refine ⟨⟨⟨Value.storable_string r.name, Value.storable_string _, List.forall_mem_nil _⟩, ?_⟩,
    Value.storable_string r.kind, List.forall_mem_nil _⟩
  exact Value.storable_of_mem_part_map fun text _ => Value.storable_string text

/-- A source has a document form that JSON can hold. -/
theorem LogSource.storable_toValue {s : LogSource} (h : s.Sound) : s.toValue.Storable := by
  rw [toValue_eq]
  refine Value.storable_object.mpr ⟨Dict.ordered_of_keys_sublist s.keys_members (by decide), ?_⟩
  have htext (key : String) (text : Option String) :
      ∀ m ∈ Dict.part key (text.map Value.string), m.2.Storable :=
    Value.storable_of_mem_part_map fun x _ => Value.storable_string x
  simp only [members, List.forall_mem_append]
  refine ⟨⟨⟨⟨⟨⟨?_, ?_⟩, ?_⟩, ?_⟩, ?_⟩, ?_⟩, ?_⟩
  · exact Value.storable_of_mem_part_unless
      (Value.storable_array_map fun r _ => Rule.storable_toValue r)
  · exact htext "path" s.path
  · refine Value.storable_of_mem_part_map fun n hn => ?_
    have hle := h.port_le n hn
    exact Value.storable_int ⟨by omega, by omega⟩
  · exact htext "service" s.service
  · exact htext "source" s.source
  · exact Value.storable_of_mem_part_unless (Value.storable_ofStrings s.tags)
  · exact List.forall_mem_singleton.mpr (Value.storable_string _)

namespace Schema

/-- A schema has a document form that JSON can hold. -/
theorem storable_toValue {s : Schema} (h : s.Sound) : s.toValue.Storable := by
  rw [toValue_eq]
  refine Value.storable_object.mpr ⟨s.ordered_members, ?_⟩
  simp only [members, List.forall_mem_append, List.forall_mem_singleton]
  refine ⟨⟨⟨?_, ?_⟩, ?_⟩, Value.storable_string s.name⟩
  · exact Value.storable_array_map fun o ho => OptionSpec.storable_toValue (h.initConfig o ho)
  · exact Value.storable_array_map fun o ho => OptionSpec.storable_toValue (h.instances o ho)
  · exact Value.storable_array_map fun source hsource =>
      LogSource.storable_toValue (h.logs source hsource)

/-- A schema is read back from the JSON text of its document form, whatever its options and sources
are made of: items of items and rules of every kind included. Bounds have to be finite, examples and
defaults not `null`, and patterns those of their texts. The reader of JSON texts adds two limits: each
float in the document form, be it a bound or part of an example or a default, has to be read back from
its own text, and the text must not be nested deeper than the reader goes. Where one of them is not
kept, it is not the document form that is read. -/
theorem decode_read?_write {s : Schema} (h : s.Sound) :
    (Json.read? (Json.write s.toValue) = some s.toValue ↔
      s.toValue.AllScalars Json.FloatRereads ∧
        (Node.ofValue s.toValue).depth ≤ Json.depthLimit) ∧
    (s.toValue.AllScalars Json.FloatRereads → (Node.ofValue s.toValue).depth ≤ Json.depthLimit →
      ∃ v, Json.read? (Json.write s.toValue) = some v ∧ decode (Node.ofValue v) = .ok s) := by
  have hread := Json.read?_write_iff (storable_toValue h)
  refine ⟨hread, fun hfloats hdepth => ⟨s.toValue, hread.mpr ⟨hfloats, hdepth⟩, ?_⟩⟩
  exact decode_ofValue_toValue h

/-- Items of items with bounds, flags, a note, and a source with a rule of each kind. -/
theorem decode_read?_write_nested_items :
    let number : ValueSpec :=
      { type := .number, minimum := some 0.5, maximum := some 2.5, default := some (.float 1.5) }
    let rows : ValueSpec := { type := .array, items := some number }
    let limits : OptionSpec :=
      { name := "limits", required := true, displayPriority := -3
        value := { type := .array, items := some rows, «example» := some (.array [.array []]) } }
    let login : OptionSpec :=
      { name := "login", description := "How", secret := true, deprecated := some "later"
        value := { type := .string, allowed := ["basic", "digest"] } }
    let mark : Pattern := bracketPattern
    let source : LogSource :=
      { kind := .udp, port := some 65535, tags := ["a"]
        rules := [.multiLine "start" mark, .excludeAtMatch "quiet" mark,
          .includeAtMatch "loud" mark, .maskSequences "mask" mark "-"] }
    let s : Schema :=
      { name := "s", initConfig := [login], instances := [limits], logs := [source] }
    s.Sound ∧ s.toValue.AllScalars Json.FloatRereads ∧
      (Node.ofValue s.toValue).depth ≤ Json.depthLimit ∧
      ∃ v, Json.read? (Json.write s.toValue) = some v ∧ decode (Node.ofValue v) = .ok s := by
  intro number rows limits login mark source s
  have hmark : bracketPattern.Compiled := rfl
  have hnone : Value.Givable none := fun x hx => by cases hx
  have hunbound : Decimal.FiniteIfGiven none := fun x hx => by cases hx
  have hnumber : number.Sound := by
    refine .intro hnone ?_ ?_ ?_ (fun t ht => by cases ht)
    · rintro x ⟨⟩
      exact ⟨rfl, trivial, rfl⟩
    · rintro x ⟨⟩
      rfl
    · rintro x ⟨⟩
      rfl
  have hrows : rows.Sound := by
    refine .intro hnone hnone hunbound hunbound ?_
    rintro t ⟨⟩
    exact hnumber
  have hlimits : limits.Sound := by
    refine ⟨by decide, .intro ?_ hnone hunbound hunbound ?_⟩
    · rintro x ⟨⟩
      exact ⟨rfl, ⟨trivial, trivial⟩, ⟨trivial, trivial⟩⟩
    · rintro t ⟨⟩
      exact hrows
  have hlogin : login.Sound :=
    ⟨by decide, .intro hnone hnone hunbound hunbound (fun t ht => by cases ht)⟩
  have hsource : source.Sound := by
    refine ⟨?_, ?_⟩
    · rintro n ⟨⟩
      exact Nat.le_refl _
    · intro r hr
      simp only [source, List.mem_cons, List.not_mem_nil, or_false] at hr
      rcases hr with rfl | rfl | rfl | rfl <;> exact hmark
  have h : s.Sound := ⟨by simpa [s] using hlogin, by simpa [s] using hlimits,
    by simpa [s] using hsource⟩
  have hfloats : s.toValue.AllScalars Json.FloatRereads := by decide +kernel
  have hdepth : (Node.ofValue s.toValue).depth ≤ Json.depthLimit := by decide +kernel
  exact ⟨h, hfloats, hdepth, (decode_read?_write h).2 hfloats hdepth⟩

/-! ## The two limits -/

/-- A schema with a bound for a number. -/
def bounded (maximum : Float) : Schema :=
  { name := "s"
    instances :=
      [{ name := "interval", required := true
         value := { type := .number, maximum := some maximum } }] }

/-- A schema with a finite bound is sound. -/
theorem sound_bounded {maximum : Float} (h : maximum.isFinite = true) : (bounded maximum).Sound := by
  refine ⟨nofun, List.forall_mem_singleton.mpr ⟨by dsimp only; decide, ?_⟩, nofun⟩
  refine .intro nofun nofun nofun ?_ nofun
  rintro x ⟨⟩
  exact h

/-- What is read of its text has the bound that is read of the text of its bound. -/
theorem reread?_bounded {x y : Float} (hx : x.isFinite = true) (hy : y.isFinite = true)
    (h : Json.rereadFloat? x = some y) :
    Json.reread? Json.depthLimit (bounded x).toValue = some (bounded y).toValue := by
  simp [bounded, toValue_eq, members, OptionSpec.toValue_eq, OptionSpec.members,
    ValueSpec.toValue_eq, ValueSpec.members, Dict.part, Value.ofFloat_of_isFinite, hx, hy, h,
    Json.reread?, Json.rereadItems?, Json.rereadMembers?, Json.depthLimit]

/-- Arrays within arrays, so many levels deep. -/
def rows : Nat → ValueSpec
  | 0 => { type := .boolean }
  | n + 1 => { type := .array, items := some (rows n) }

/-- A schema with such arrays. -/
def nested (levels : Nat) : Schema :=
  { name := "s", instances := [{ name := "rows", required := true, value := rows levels }] }

/-- Arrays within arrays are sound at every depth. -/
theorem sound_rows (n : Nat) : (rows n).Sound := by
  induction n with
  | zero => exact .intro nofun nofun nofun nofun nofun
  | succ n ih =>
    refine .intro nofun nofun nofun nofun ?_
    rintro t ⟨⟩
    exact ih

theorem sound_nested (levels : Nat) : (nested levels).Sound :=
  ⟨nofun, List.forall_mem_singleton.mpr ⟨by dsimp only; decide, sound_rows levels⟩, nofun⟩

/-- Neither limit can be left out. The bound of the first schema is read back as the float beside it,
and the second schema, whose items are nested too deep, is not read back at all. -/
theorem read?_write_loses :
    ((bounded 51.248178375505404).Sound ∧ ∃ v t,
      Json.read? (Json.write (bounded 51.248178375505404).toValue) = some v ∧
        decode (Node.ofValue v) = .ok t ∧ t ≠ bounded 51.248178375505404) ∧
    (nested 124).Sound ∧ Json.read? (Json.write (nested 124).toValue) = none := by
  have hbounded : (bounded 51.248178375505404).Sound := sound_bounded (by decide)
  have hread : Json.reread? Json.depthLimit (bounded 51.248178375505404).toValue =
      some (bounded 51.24817837550541).toValue :=
    reread?_bounded (by decide) (by decide) (by decide +kernel)
  refine ⟨⟨hbounded, (bounded 51.24817837550541).toValue, bounded 51.24817837550541, ?_, ?_, ?_⟩,
    sound_nested 124, ?_⟩
  · rw [Json.read?_write_eq (storable_toValue hbounded), hread]
  · exact decode_ofValue_toValue (sound_bounded (by decide))
  · intro h
    have hmaxima := congrArg (fun s : Schema => s.instances.map (·.value.maximum)) h
    exact absurd hmaxima (by decide)
  · rw [Json.read?_write_eq (storable_toValue (sound_nested 124)), Option.eq_none_iff_forall_ne_some]
    intro v hv
    have hdepth : ¬ (Node.ofValue (nested 124).toValue).depth ≤ Json.depthLimit := by decide +kernel
    exact hdepth (Json.depth_le_of_reread? hv)

end Schema

end ClusterMonitor

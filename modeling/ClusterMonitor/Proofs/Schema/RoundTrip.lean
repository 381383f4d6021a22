import ClusterMonitor.Proofs.Decode.Values
import ClusterMonitor.Proofs.Log.RoundTrip
import ClusterMonitor.Schema.Builtin

/-!
# Schemas through documents

A schema is decoded again from its own document form, whatever its options and sources are made of.
Each record asks for what its parts ask for, and the document form leaves out only what decoding
puts back.

* `ValueSpec.Sound`, `OptionSpec.Sound`, `Schema.Sound` — what decoding the document form asks for.
* `ValueSpec.decodeWithin_toValue` — specifications, by induction on the nesting of their items.
* `OptionSpec.decode_toValue` — options.
* `Schema.decode_ofValue_toValue` — schemas.

The document form is a value. `Schema.decode_read?_write` takes it through JSON texts.
-/

namespace ClusterMonitor

/-- A value that may be given or not: as `null` it would count as not given. -/
def Value.Givable (v : Option Value) : Prop := ∀ x, v = some x → x.isNull = false ∧ x.Storable

/-- A bound that may be given or not: documents have finite ones. -/
def Decimal.FiniteIfGiven (bound : Option Float) : Prop := ∀ x, bound = some x → x.isFinite = true

/-! ## Value specifications -/

namespace ValueSpec

/-- What a specification needs to be decoded again from its document form, at every depth of its
items. -/
inductive Sound : ValueSpec → Prop where
  | intro {s : ValueSpec} («example» : Value.Givable s.example) (default : Value.Givable s.default)
      (minimum : Decimal.FiniteIfGiven s.minimum) (maximum : Decimal.FiniteIfGiven s.maximum)
      (items : ∀ t, s.items = some t → Sound t) : Sound s

/-- The members of a specification in the order of their keys. -/
def members (s : ValueSpec) : Dict Value :=
  Dict.part "default" s.default ++
    Dict.part "enum" (if s.allowed.isEmpty then none else some (.ofStrings s.allowed)) ++
    Dict.part "example" s.example ++
    Dict.part "items" (s.items.map toValue) ++
    Dict.part "maximum" (s.maximum.map Value.ofFloat) ++
    Dict.part "minimum" (s.minimum.map Value.ofFloat) ++
    [("type", .string s.type.text)]

/-- The keys of a specification in their order, some of which may be missing. -/
theorem keys_members (s : ValueSpec) :
    (Dict.keys s.members).Sublist
      ["default", "enum", "example", "items", "maximum", "minimum", "type"] := by
  simp only [members, Dict.keys_append]
  have hpart (key : String) (v : Option Value) := Dict.keys_part_sublist key v
  exact ((((((hpart _ _).append (hpart _ _)).append (hpart _ _)).append (hpart _ _)).append
    (hpart _ _)).append (hpart _ _)).append (List.Sublist.refl ["type"])

/-- The document form has the members in the order of their keys. -/
theorem toValue_eq (s : ValueSpec) : s.toValue = .object s.members := by
  have hpairs : s.toValue = .ofPairs ([("type", .string s.type.text)] ++
      Dict.part "example" s.example ++ Dict.part "default" s.default ++
      Dict.part "items" (s.items.map toValue) ++
      Dict.part "enum" (if s.allowed.isEmpty then none else some (.ofStrings s.allowed)) ++
      Dict.part "minimum" (s.minimum.map Value.ofFloat) ++
      Dict.part "maximum" (s.maximum.map Value.ofFloat)) := by
    obtain ⟨type, shown, default, items, allowed, minimum, maximum⟩ := s
    simp only [← Dict.toList_map_pair, ← Dict.ite_pair]
    cases items <;> rfl
  rw [hpairs]
  refine congrArg Value.object (Dict.ofPairs_eq_of_perm ?_
    (Dict.ordered_of_keys_sublist (keys_members _) (by decide)))
  rw [← Multiset.coe_eq_coe]
  simp only [members, ← Multiset.coe_add]
  abel

/-- The type is always written. -/
theorem type_mem_members (s : ValueSpec) :
    "type" ∈ (Node.ofMembers s.members).map Prod.fst := by
  rw [Node.ofMembers_eq]
  simp [Dict.mapValues, members]

theorem eta (s : ValueSpec) :
    ⟨s.type, s.example, s.default, s.items, s.allowed, s.minimum, s.maximum⟩ = s := by
  cases s
  rfl

/-- A type is decoded from its name. -/
theorem decode_type (type : ValueType) :
    ValueType.decode (Node.ofValue (.string type.text)) = .ok type := by
  cases type <;> rfl

theorem isNull_ofValue (v : Value) : (Node.ofValue v).isNull = v.isNull := by
  cases v <;> rfl

/-- A value that may be given is decoded as it is. -/
theorem decode_given {v : Option Value} (h : Value.Givable v) (x : Value) (hx : v = some x) :
    (Node.ofValue x).isNull = false ∧ Decode.value (Node.ofValue x) = .ok x := by
  obtain ⟨hnull, hstorable⟩ := h x hx
  exact ⟨(isNull_ofValue x).trans hnull, Decode.value_ofValue hstorable⟩

/-- A bound that is finite is decoded as it is. -/
theorem decode_bound {bound : Option Float} (h : Decimal.FiniteIfGiven bound) (x : Float)
    (hx : bound = some x) : (Node.ofValue (Value.ofFloat x)).isNull = false ∧
      Decode.float (Node.ofValue (Value.ofFloat x)) = .ok x := by
  rw [Value.ofFloat_of_isFinite (h x hx)]
  exact ⟨rfl, rfl⟩

theorem isNull_toValue (s : ValueSpec) : (Node.ofValue s.toValue).isNull = false := by
  rw [toValue_eq]
  rfl

/-- The members write the fields of the specification, given that those of its items do. -/
theorem foldlM_members {s : ValueSpec} {itemSpec : Node → Decoded ValueSpec}
    (hexample : Value.Givable s.example) (hdefault : Value.Givable s.default)
    (hminimum : Decimal.FiniteIfGiven s.minimum) (hmaximum : Decimal.FiniteIfGiven s.maximum)
    (hitems : ∀ t, s.items = some t → itemSpec (Node.ofValue t.toValue) = .ok t) :
    (Node.ofMembers s.members).foldlM (Decode.writeMember (fields itemSpec))
      { type := .boolean } = .ok s := by
  have htext (x : String) : Decode.text (Node.ofValue (.string x)) = .ok x := rfl
  -- each member starts from what the ones before it have written
  have wdefault := Decode.foldlM_optional (fields itemSpec) "default" s.default
    (fun x => { type := .boolean, default := x }) rfl (fun _ => rfl) (decode_given hdefault) rfl
  have wenum := Decode.foldlM_list (fields itemSpec) "enum" s.allowed
    (fun x => { type := .boolean, default := s.default, allowed := x }) rfl (fun _ => rfl)
    (fun x _ => htext x) rfl
  have wexample := Decode.foldlM_optional (fields itemSpec) "example" s.example
    (fun x => { type := .boolean, default := s.default, allowed := s.allowed, «example» := x })
    rfl (fun _ => rfl) (decode_given hexample) rfl
  have witems := Decode.foldlM_optional (fields itemSpec) "items" s.items
    (fun x => { s with type := .boolean, maximum := none, minimum := none, items := x })
    rfl (fun _ => rfl) (fun t ht => ⟨isNull_toValue t, hitems t ht⟩) rfl
  have wmaximum := Decode.foldlM_optional (fields itemSpec) "maximum" s.maximum
    (fun x => { s with type := .boolean, minimum := none, maximum := x })
    rfl (fun _ => rfl) (decode_bound hmaximum) rfl
  have wminimum := Decode.foldlM_optional (fields itemSpec) "minimum" s.minimum
    (fun x => { s with type := .boolean, minimum := x })
    rfl (fun _ => rfl) (decode_bound hminimum) rfl
  have wtype := Decode.foldlM_given (fields itemSpec) "type" (.string s.type.text) s.type
    (fun x => { s with type := x }) (s := { s with type := .boolean }) rfl (fun _ => rfl)
    (decode_type s.type)
  rw [eta s] at wtype
  simp only [Option.map_id'] at wdefault wexample
  simp only [Node.ofMembers_eq, members, Dict.mapValues_append, Dict.mapValues_part]
  exact Decode.foldlM_writeMember_append (Decode.foldlM_writeMember_append
    (Decode.foldlM_writeMember_append (Decode.foldlM_writeMember_append
      (Decode.foldlM_writeMember_append (Decode.foldlM_writeMember_append wdefault wenum) wexample)
      witems) wmaximum) wminimum) wtype

/-- A sound specification is decoded again from its document form. -/
theorem decodeWithin_toValue {s : ValueSpec} (h : s.Sound) {depth : Nat}
    (hdepth : (Node.ofValue s.toValue).depth < depth) :
    decodeWithin depth (Node.ofValue s.toValue) = .ok s := by
  -- the items lie deeper in the node, and are sound themselves
  induction h generalizing depth with
  | @intro s hexample hdefault hminimum hmaximum _ ih =>
    obtain ⟨depth, rfl⟩ := Nat.exists_eq_succ_of_ne_zero (Nat.ne_zero_of_lt hdepth)
    rw [toValue_eq] at hdepth ⊢
    refine Decode.ofMapping_of_writes (Node.ofMembers s.members) ?_ ?_
      (foldlM_members hexample hdefault hminimum hmaximum ?_)
    · rw [Node.ofMembers_eq]
      have := s.keys_members.nodup (by decide)
      rwa [← Dict.keys_mapValues Node.ofValue] at this
    · intro f hf hrequired
      simp only [fields, List.mem_cons, List.not_mem_nil, or_false] at hf
      rcases hf with rfl | rfl | rfl | rfl | rfl | rfl | rfl
      · exact s.type_mem_members
      all_goals cases hrequired
    · intro t ht
      have hmem : ("items", t.toValue) ∈ s.members := by
        simp [members, Dict.part, ht]
      have hlt := Node.depth_lt_of_mem hmem
      exact ih t ht (by omega)

theorem decode_toValue {s : ValueSpec} (h : s.Sound) : decode (Node.ofValue s.toValue) = .ok s :=
  decodeWithin_toValue h (Nat.lt_succ_self _)

end ValueSpec

/-! ## Options -/

namespace OptionSpec

/-- What an option needs to be decoded again from its document form. -/
structure Sound (o : OptionSpec) : Prop where
  displayPriority : -2147483648 ≤ o.displayPriority ∧ o.displayPriority ≤ 2147483647
  value : o.value.Sound

/-- The members of an option in the order of their keys. -/
def members (o : OptionSpec) : Dict Value :=
  Dict.part "deprecated" (o.deprecated.map Value.string) ++
    [("description", .string o.description)] ++
    Dict.part "display_priority"
      (if o.displayPriority = 0 then none else some (.int o.displayPriority)) ++
    [("name", .string o.name)] ++
    Dict.part "required" (if o.required then some (.bool true) else none) ++
    Dict.part "secret" (if o.secret then some (.bool true) else none) ++
    [("value", o.value.toValue)]

/-- The keys of an option in their order, some of which may be missing. -/
theorem keys_members (o : OptionSpec) :
    (Dict.keys o.members).Sublist
      ["deprecated", "description", "display_priority", "name", "required", "secret", "value"] := by
  simp only [members, Dict.keys_append]
  have hpart (key : String) (v : Option Value) := Dict.keys_part_sublist key v
  exact ((((((hpart _ _).append (List.Sublist.refl ["description"])).append (hpart _ _)).append
    (List.Sublist.refl ["name"])).append (hpart _ _)).append (hpart _ _)).append
      (List.Sublist.refl ["value"])

/-- The document form has the members in the order of their keys. -/
theorem toValue_eq (o : OptionSpec) : o.toValue = .object o.members := by
  refine congrArg Value.object (Dict.ofPairs_eq_of_perm ?_
    (Dict.ordered_of_keys_sublist o.keys_members (by decide)))
  have hpair (a b : String × Value) : [a, b] = [a] ++ [b] := rfl
  simp only [members, Dict.toList_map_pair, Dict.ite_pair, Dict.ite_pair', hpair]
  rw [← Multiset.coe_eq_coe]
  simp only [← Multiset.coe_add]
  abel

/-- What the members of an option are written into. -/
def start : OptionSpec := { name := "", value := { type := .boolean } }

/-- A priority is left out if it is zero, and else decoded as it is. -/
theorem decode_priority {o : OptionSpec} (h : o.Sound) (v : Value)
    (hv : (if o.displayPriority = 0 then none else some (.int o.displayPriority)) = some v) :
    Decode.integer (-2147483648) 2147483647 "i32" (Node.ofValue v) = .ok o.displayPriority := by
  split at hv
  · cases hv
  · cases hv
    simp [Decode.integer, Node.ofValue, Node.bare, h.displayPriority]

/-- A flag is written only if it is set. -/
theorem decode_flag (b : Bool) (v : Value)
    (hv : (if b then some (Value.bool true) else none) = some v) :
    Decode.flag (Node.ofValue v) = .ok b := by
  cases b <;> cases hv
  rfl

/-- The members write the fields of the option, one after another. -/
theorem foldlM_members {o : OptionSpec} (h : o.Sound) :
    (Node.ofMembers o.members).foldlM (Decode.writeMember fields) start = .ok o := by
  have htext (x : String) : (Node.ofValue (.string x)).isNull = false ∧
      Decode.text (Node.ofValue (.string x)) = .ok x := ⟨rfl, rfl⟩
  -- each member starts from what the ones before it have written
  have wdeprecated := Decode.foldlM_optional fields "deprecated" o.deprecated
    (fun x => { start with deprecated := x }) rfl (fun _ => rfl) (fun x _ => htext x) rfl
  have wdescription := Decode.foldlM_given fields "description" (.string o.description)
    o.description (fun x => { start with deprecated := o.deprecated, description := x })
    (s := { start with deprecated := o.deprecated }) rfl (fun _ => rfl) (htext o.description).2
  have wpriority := Decode.foldlM_unless fields "display_priority"
    (if o.displayPriority = 0 then none else some (.int o.displayPriority)) o.displayPriority
    (fun x => { o with name := "", required := false, secret := false, value := start.value,
                       displayPriority := x })
    (s := { start with deprecated := o.deprecated, description := o.description })
    rfl (fun _ => rfl) (decode_priority h) (fun hnone => by simp_all [start])
  have wname := Decode.foldlM_given fields "name" (.string o.name) o.name
    (fun x => { o with required := false, secret := false, value := start.value, name := x })
    (s := { o with required := false, secret := false, value := start.value, name := "" })
    rfl (fun _ => rfl) (htext o.name).2
  have wrequired := Decode.foldlM_unless fields "required"
    (if o.required then some (.bool true) else none) o.required
    (fun x => { o with secret := false, value := start.value, required := x })
    (s := { o with secret := false, value := start.value, required := false })
    rfl (fun _ => rfl) (decode_flag o.required) (fun hnone => by simp_all)
  have wsecret := Decode.foldlM_unless fields "secret"
    (if o.secret then some (.bool true) else none) o.secret
    (fun x => { o with value := start.value, secret := x })
    (s := { o with value := start.value, secret := false })
    rfl (fun _ => rfl) (decode_flag o.secret) (fun hnone => by simp_all)
  have wvalue := Decode.foldlM_given fields "value" o.value.toValue o.value
    (fun x => { o with value := x }) (s := { o with value := start.value }) rfl (fun _ => rfl)
    (ValueSpec.decode_toValue h.value)
  simp only [Node.ofMembers_eq, members, Dict.mapValues_append, Dict.mapValues_part]
  exact Decode.foldlM_writeMember_append (Decode.foldlM_writeMember_append
    (Decode.foldlM_writeMember_append (Decode.foldlM_writeMember_append
      (Decode.foldlM_writeMember_append (Decode.foldlM_writeMember_append wdeprecated
        wdescription) wpriority) wname) wrequired) wsecret) wvalue

/-- A sound option is decoded again from its document form. -/
theorem decode_toValue {o : OptionSpec} (h : o.Sound) : decode (Node.ofValue o.toValue) = .ok o := by
  rw [toValue_eq]
  refine Decode.ofMapping_of_writes (Node.ofMembers o.members) ?_ ?_ (foldlM_members h)
  · rw [Node.ofMembers_eq]
    have := o.keys_members.nodup (by decide)
    rwa [← Dict.keys_mapValues Node.ofValue] at this
  · intro f hf hrequired
    simp only [fields, List.mem_cons, List.not_mem_nil, or_false] at hf
    rw [Node.ofMembers_eq]
    rcases hf with rfl | rfl | rfl | rfl | rfl | rfl | rfl
    · simp [Dict.mapValues, members]
    iterate 5 cases hrequired
    simp [Dict.mapValues, members]

end OptionSpec

/-! ## Schemas -/

namespace Schema

/-- What a schema needs to be decoded again from its document form. -/
structure Sound (s : Schema) : Prop where
  initConfig : ∀ o ∈ s.initConfig, o.Sound
  instances : ∀ o ∈ s.instances, o.Sound
  logs : ∀ source ∈ s.logs, source.Sound

/-- The members of a schema in the order of their keys. -/
def members (s : Schema) : Dict Value :=
  [("init_config", .array (s.initConfig.map (·.toValue)))] ++
    [("instances", .array (s.instances.map (·.toValue)))] ++
    [("logs", .array (s.logs.map (·.toValue)))] ++ [("name", .string s.name)]

/-- The members of a schema are in order. -/
theorem ordered_members (s : Schema) : Dict.Ordered s.members := by
  rw [Dict.ordered_iff_keys]
  exact (by decide : ["init_config", "instances", "logs", "name"].Pairwise (· < ·))

/-- The document form has the members in the order of their keys. -/
theorem toValue_eq (s : Schema) : s.toValue = .object s.members := by
  have hperm : [("name", Value.string s.name),
      ("init_config", .array (s.initConfig.map (·.toValue))),
      ("instances", .array (s.instances.map (·.toValue))),
      ("logs", .array (s.logs.map (·.toValue)))].Perm s.members :=
    (List.perm_append_singleton ("name", Value.string s.name) _).symm
  exact congrArg Value.object (Dict.ofPairs_eq_of_perm hperm s.ordered_members)

/-- The members write the fields of the schema, one after another. -/
theorem foldlM_members {s : Schema} (h : s.Sound) :
    (Node.ofMembers s.members).foldlM (Decode.writeMember fields) { name := "" } = .ok s := by
  have hinit := Decode.foldlM_given fields "init_config" _ s.initConfig
    (fun x => { name := "", initConfig := x }) (s := { name := "" }) rfl (fun _ => rfl)
    (Decode.list_ofItems fun o ho => OptionSpec.decode_toValue (h.initConfig o ho))
  have hinstances := Decode.foldlM_given fields "instances" _ s.instances
    (fun x => { name := "", initConfig := s.initConfig, instances := x })
    (s := { name := "", initConfig := s.initConfig }) rfl (fun _ => rfl)
    (Decode.list_ofItems fun o ho => OptionSpec.decode_toValue (h.instances o ho))
  have hlogs := Decode.foldlM_given fields "logs" _ s.logs
    (fun x => { s with name := "", logs := x }) (s := { s with name := "", logs := [] })
    rfl (fun _ => rfl)
    (Decode.list_ofItems fun source hsource => LogSource.decode_toValue (h.logs source hsource))
  have hname := Decode.foldlM_given fields "name" (.string s.name) s.name
    (fun x => { s with name := x }) (s := { s with name := "" }) rfl (fun _ => rfl) rfl
  simp only [Node.ofMembers_eq, members, Dict.mapValues_append]
  exact Decode.foldlM_writeMember_append (Decode.foldlM_writeMember_append
    (Decode.foldlM_writeMember_append hinit hinstances) hlogs) hname

/-- The document form of a schema loses nothing. Whatever its options and log sources are made of,
items of items and rules of every kind included, the schema is decoded again from its document
form, provided that bounds are finite, examples and defaults are not `null`, and patterns are the
compiled ones of their texts. -/
theorem decode_ofValue_toValue {s : Schema} (h : s.Sound) :
    decode (Node.ofValue s.toValue) = .ok s := by
  rw [toValue_eq]
  refine Decode.ofMapping_of_writes (Node.ofMembers s.members) ?_ ?_ (foldlM_members h)
  · rw [Node.ofMembers_eq]
    have := Dict.nodup_keys_of_ordered s.ordered_members
    rwa [← Dict.keys_mapValues Node.ofValue] at this
  · intro f hf hrequired
    simp only [fields, List.mem_cons, List.not_mem_nil, or_false] at hf
    rw [Node.ofMembers_eq]
    rcases hf with rfl | rfl | rfl | rfl
    · simp [Dict.mapValues, members]
    all_goals cases hrequired

end Schema

end ClusterMonitor

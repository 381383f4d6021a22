import ClusterMonitor.Proofs.Config.Shown
import ClusterMonitor.Proofs.Decode.Members
import ClusterMonitor.Proofs.Log.RoundTrip

/-!
# What a log source takes from its entry

Entries of `logs` and their rules are decoded member by member. Members that no field has the name of
are passed over in silence; all others are shown again in the document form.

* `Rule.readPart`, `LogSource.readPart` — an entry with the members that it has fields for.
* `LogSource.get?_members_of_not_hasField` — the other members are not shown.
* `Rule.shownBy_toValue`, `LogSource.shownBy_toValue` — what is read is shown.
-/

namespace ClusterMonitor

/-! ## Rules -/

/-- A decoded pattern has the text that it was decoded from. -/
theorem Pattern.text_of_decode {n : Node} {p : Pattern} (h : decode n = .ok p) :
    Decode.text n = .ok p.text := by
  obtain ⟨text, htext, h⟩ := Decode.bind_eq_ok_iff.mp h
  split at h
  · rename_i q hq
    cases h
    obtain ⟨e, -, rfl⟩ := Decode.map_eq_ok_iff.mp hq
    exact htext
  · cases h

namespace Rule

/-- The kind that the members of a rule name. -/
def kindOf? (members : Dict Value) : Option Kind :=
  ((Dict.get? members "type").bind Value.asString?).bind fun name => kinds.lookup name

/-- The part of a rule that is read: its type, and the members that its kind has fields for. What is
no object, or names no kind, has no members. -/
def readPart : Value → Value
  | .object members =>
    match kindOf? members with
    | some kind =>
      .object (Dict.restrict members fun name =>
        name == "type" || kind.fields.any fun f => f.name == name)
    | none => .null
  | _ => .null

/-- The draft has taken up the node of a member. -/
structure Draft.Takes (key : String) (n : Node) (d : Draft) : Prop where
  name : key = "name" → Decode.text n = .ok d.name
  pattern : key = "pattern" → ∃ p, d.pattern = some p ∧ Decode.text n = .ok p.text
  placeholder : key = "replace_placeholder" → Decode.text n = .ok d.placeholder

/-- The fields of a kind, as they are written beside the rule to make. -/
def Kind.writers (kind : Kind) :
    List (Decode.Field ((String → Pattern → String → Rule) × Draft)) :=
  kind.fields.map fun f =>
    { name := f.name
      write := fun s n => (f.write s.2 n).map fun d => (s.1, d) }

/-- Each field of a kind takes up the text of its member. -/
theorem takesUp_writers {kind : String × Kind} (hkind : kind ∈ kinds) :
    Decode.TakesUp (fun key n s => s.2.Takes key n) kind.2.writers where
  takes := by
    intro f hf s n s' hwrite
    obtain ⟨g, hg, rfl⟩ := List.mem_map.mp hf
    obtain ⟨d, hd, rfl⟩ := Decode.map_eq_ok_iff.mp hwrite
    rcases mem_fields_of_mem_kinds hkind hg with rfl | rfl | rfl
    · obtain ⟨x, hx, rfl⟩ := Decode.map_eq_ok_iff.mp hd
      exact ⟨fun _ => hx, nofun, nofun⟩
    · obtain ⟨p, hp, rfl⟩ := Decode.map_eq_ok_iff.mp hd
      exact ⟨nofun, fun _ => ⟨p, rfl, Pattern.text_of_decode hp⟩, nofun⟩
    · obtain ⟨x, hx, rfl⟩ := Decode.map_eq_ok_iff.mp hd
      exact ⟨nofun, nofun, fun _ => hx⟩
  keeps := by
    intro f hf s n s' hwrite key m hne htakes
    obtain ⟨g, hg, rfl⟩ := List.mem_map.mp hf
    obtain ⟨d, hd, rfl⟩ := Decode.map_eq_ok_iff.mp hwrite
    rcases mem_fields_of_mem_kinds hkind hg with rfl | rfl | rfl
    · obtain ⟨x, -, rfl⟩ := Decode.map_eq_ok_iff.mp hd
      exact ⟨fun hkey => absurd hkey hne, htakes.pattern, htakes.placeholder⟩
    · obtain ⟨p, -, rfl⟩ := Decode.map_eq_ok_iff.mp hd
      exact ⟨htakes.name, fun hkey => absurd hkey hne, htakes.placeholder⟩
    · obtain ⟨x, -, rfl⟩ := Decode.map_eq_ok_iff.mp hd
      exact ⟨htakes.name, htakes.pattern, fun hkey => absurd hkey hne⟩

/-- No field touches what the rule is made with. -/
theorem keeps_make (kind : Kind) :
    Decode.Keeps (fun s => s.1 = kind.make) kind.writers := by
  intro f hf s n s' hs hwrite
  obtain ⟨g, -, rfl⟩ := List.mem_map.mp hf
  obtain ⟨d, -, rfl⟩ := Decode.map_eq_ok_iff.mp hwrite
  exact hs

/-- What a kind makes: a rule of this kind, with the placeholder if the kind has a field for it. -/
theorem make_eq {kind : String × Kind} (hkind : kind ∈ kinds) (name : String) (p : Pattern)
    (placeholder : String) :
    (kind.2.make name p placeholder).kind = kind.1 ∧
      (kind.2.make name p placeholder).name = name ∧
      (kind.2.make name p placeholder).pattern = p ∧
      ∀ f ∈ kind.2.fields, f.name = "replace_placeholder" →
        (kind.2.make name p placeholder).placeholder? = some placeholder := by
  simp only [kinds, List.mem_cons, List.not_mem_nil, or_false] at hkind
  rcases hkind with rfl | rfl | rfl | rfl <;>
    simp [kind, Rule.name, Rule.pattern, placeholder?, nameField, patternField]

/-- The members of the document form, by their keys. -/
theorem exists_members (r : Rule) :
    ∃ members, r.toValue = .object members ∧
      Dict.get? members "type" = some (.string r.kind) ∧
      Dict.get? members "name" = some (.string r.name) ∧
      Dict.get? members "pattern" = some (.string r.pattern.text) ∧
      Dict.get? members "replace_placeholder" = r.placeholder?.map .string := by
  refine ⟨_, r.toValue_eq, ?_⟩
  simp [members, Dict.get?_append, Dict.get?, Dict.get?_part]

/-- The kind is named by a member of the rule, and each member that the kind has a field for is a
text that is shown. -/
theorem decode_object_eq_ok {members : Dict Value} {r : Rule}
    (h : decode (Node.ofValue (.object members)) = .ok r) :
    ∃ kind shown, kindOf? members = some kind ∧ r.toValue = .object shown ∧
      Dict.get? shown "type" = Dict.get? members "type" ∧
      ∀ key v, Dict.get? members key = some v → key ≠ "type" →
        (∃ f ∈ kind.fields, f.name = key) → Dict.get? shown key = some v := by
  obtain ⟨⟨make, draft⟩, htagged, h⟩ := Decode.bind_eq_ok_iff.mp h
  obtain ⟨name, kind, others, htype, hlookup, hmapping, hothers⟩ := Decode.tagged_eq_ok htagged
  have hkind : (name, kind) ∈ kinds := by
    obtain ⟨before, after, hknown, -⟩ := List.lookup_eq_some_iff.mp hlookup
    simp [hknown]
  have hkindOf : kindOf? members = some kind := by
    rw [kindOf?, htype]
    exact hlookup
  -- no field touches what the rule is made with
  have hmake : make = kind.make :=
    Decode.ofMapping_keeps (P := fun s => s.1 = kind.make) (keeps_make kind) rfl hmapping
  cases hp : draft.pattern with
  | none =>
    simp only [hp] at h
    cases h
  | some p =>
    simp only [hp, hmake] at h
    cases h
    obtain ⟨rkind, rname, rpattern, rplaceholder⟩ := make_eq hkind draft.name p draft.placeholder
    obtain ⟨shown, hshown, stype, sname, spattern, splaceholder⟩ :=
      exists_members (kind.make draft.name p draft.placeholder)
    refine ⟨kind, shown, hkindOf, hshown, by rw [stype, htype, rkind], ?_⟩
    rintro key v hv hne ⟨f, hf, rfl⟩
    have htakes : draft.Takes f.name (Node.ofValue v) :=
      Decode.ofMapping_takesUp (takesUp_writers hkind) hmapping _ (hothers _ v hv hne)
        ⟨_, List.mem_map.mpr ⟨f, hf, rfl⟩, rfl⟩
    rcases mem_fields_of_mem_kinds hkind hf with rfl | rfl | rfl
    · have hname : v = .string draft.name := Decode.text_ofValue_iff.mp (htakes.name rfl)
      rw [hname]
      exact sname.trans (by rw [rname])
    · obtain ⟨q, hq, htext⟩ := htakes.pattern rfl
      have hpq : p = q := Option.some.inj (hp.symm.trans hq)
      rw [Decode.text_ofValue_iff.mp htext, ← hpq]
      exact spattern.trans (by rw [rpattern])
    · have hplaceholder : v = .string draft.placeholder :=
        Decode.text_ofValue_iff.mp (htakes.placeholder rfl)
      rw [hplaceholder]
      exact splaceholder.trans (by rw [rplaceholder _ hf rfl]; rfl)

/-- All that is read of a rule is shown in its document form. -/
theorem shownBy_toValue {v : Value} {r : Rule} (h : decode (Node.ofValue v) = .ok r)
    (place : List Step) : ShownBy place (readPart v) r.toValue := by
  cases v with
  | object members =>
    obtain ⟨kind, shown, hkind, hshown, htype, hfields⟩ := decode_object_eq_ok h
    rw [hshown]
    simp only [readPart, hkind]
    refine ShownBy.object fun key v hv _ => ?_
    rw [Dict.get?_restrict] at hv
    split at hv
    · rename_i hchosen
      refine ⟨v, ?_, ShownBy.refl _ v⟩
      by_cases hkey : key = "type"
      · rw [hkey] at hv ⊢
        rw [htype, hv]
      · have hfield : ∃ f ∈ kind.fields, f.name = key := by simpa [hkey] using hchosen
        exact hfields key v hv hkey hfield
    · cases hv
  | _ => exact ShownBy.of_isEmpty rfl _

end Rule

/-! ## Sources -/

namespace LogSource

/-- The part of a member of an entry that is read: of its rules, the part of each. -/
def readMember : String → Value → Value := Value.mapItemsOf "log_processing_rules" Rule.readPart

/-- Has a log source a field of this name? -/
def hasField (name : String) : Bool := fields.any fun f => f.name == name

/-- The part of an entry that is read: the members that a log source has fields for. What is no
object has no members. -/
def readPart : Value → Value
  | .object members => .object (Dict.mapEntries readMember (Dict.restrict members hasField))
  | _ => .null

/-- What no field has the name of is not in the document form. -/
theorem get?_members_of_not_hasField {key : String} (h : hasField key = false) (s : LogSource) :
    Dict.get? s.members key = none := by
  by_contra hsome
  have hkey : key ∈ Dict.keys s.members :=
    (Dict.mem_keys_iff _ _).mpr (Option.isSome_iff_ne_none.mpr hsome)
  have hname := s.keys_members.subset hkey
  simp only [List.mem_cons, List.not_mem_nil, or_false] at hname
  rcases hname with rfl | rfl | rfl | rfl | rfl | rfl | rfl <;> cases h

/-- A known kind of source has the name that it was found by. -/
theorem text_of_lookup {name : String} {kind : SourceKind}
    (h : SourceKind.known.lookup name = some kind) : name = kind.text := by
  obtain ⟨before, after, hknown, -⟩ := List.lookup_eq_some_iff.mp h
  have hmem : (name, kind) ∈ SourceKind.known := by simp [hknown]
  simp only [SourceKind.known, List.mem_cons, Prod.mk.injEq, List.not_mem_nil, or_false] at hmem
  rcases hmem with ⟨rfl, rfl⟩ | ⟨rfl, rfl⟩ | ⟨rfl, rfl⟩ <;> rfl

/-- The type is written as its name, or as the only key of an object. -/
theorem type_of_choice {v : Value} {kind : SourceKind}
    (h : Decode.choice SourceKind.known (Node.ofValue v) = .ok kind) :
    v = .string kind.text ∨ v = .object [(kind.text, .null)] := by
  cases v with
  | string name =>
    left
    simp only [Node.ofValue, Decode.choice] at h
    split at h
    · rename_i hlookup
      cases h
      rw [text_of_lookup hlookup]
    · cases h
  | object members =>
    right
    match members with
    | [] => cases h
    | [(name, content)] =>
      simp only [Node.ofValue, Node.ofMembers, Decode.choice] at h
      cases hlookup : SourceKind.known.lookup name with
      | none => simp [hlookup] at h
      | some k =>
        rw [hlookup] at h
        cases content with
        | null =>
          cases h
          rw [text_of_lookup hlookup]
        | _ => cases h
    | _ :: _ :: _ => cases h
  | _ => cases h

/-- An optional text that is not empty is the text. -/
theorem text_of_optional {v : Value} {x : Option String}
    (h : Decode.optional Decode.text (Node.ofValue v) = .ok x) (hne : v.isEmpty = false) :
    ∃ text, v = .string text ∧ x = some text := by
  have hnull : v ≠ .null := by
    rintro rfl
    cases hne
  rw [Decode.optional_ofValue_of_ne_null _ hnull] at h
  obtain ⟨text, htext, rfl⟩ := Decode.map_eq_ok_iff.mp h
  exact ⟨text, Decode.text_ofValue_iff.mp htext, rfl⟩

/-- An optional port that is not empty is a natural number. -/
theorem port_of_optional {v : Value} {x : Option Int}
    (h : Decode.optional (Decode.integer 0 65535 "u16") (Node.ofValue v) = .ok x)
    (hne : v.isEmpty = false) : ∃ n : Nat, v = .int n ∧ x.map Int.toNat = some n := by
  have hnull : v ≠ .null := by
    rintro rfl
    cases hne
  rw [Decode.optional_ofValue_of_ne_null _ hnull] at h
  obtain ⟨n, hn, rfl⟩ := Decode.map_eq_ok_iff.mp h
  obtain ⟨hv, hlow, -⟩ := Decode.integer_ofValue_iff.mp hn
  exact ⟨n.toNat, by rw [hv, Int.toNat_of_nonneg hlow], rfl⟩

/-- A decoded list of texts is the list of these texts. -/
theorem texts_of_list {v : Value} {texts : List String}
    (h : Decode.list Decode.text (Node.ofValue v) = .ok texts) : v = .ofStrings texts := by
  obtain ⟨items, rfl, hitems⟩ := Decode.list_ofValue_iff.mp h
  rw [Value.ofStrings]
  congr 1
  clear h
  induction hitems with
  | nil => rfl
  | cons hitem _ ih =>
    rw [List.map_cons, ← ih, Decode.text_ofValue_iff.mp hitem]

/-- The rules that are read are shown, each in its place. -/
theorem shownBy_rules {v : Value} {rules : List Rule}
    (h : Decode.list Rule.decode (Node.ofValue v) = .ok rules) (place : List Step) :
    ShownBy place (v.mapItems Rule.readPart) (.array (rules.map Rule.toValue)) := by
  obtain ⟨items, rfl, hitems⟩ := Decode.list_ofValue_iff.mp h
  exact ShownBy.array_of_forall₂ hitems fun index item rule hdecode =>
    Rule.shownBy_toValue hdecode (place ++ [.item index])

/-- A source shows the node of a member of the entry at an index. -/
def Shows (index : Nat) (key : String) (n : Node) (s : LogSource) : Prop :=
  ∀ v, n = Node.ofValue v → v.isEmpty = false → ∃ w, Dict.get? s.members key = some w ∧
    ShownBy [.key "logs", .item index, .key key] (readMember key v) w

/-- A member that is shown as it is. -/
theorem shows_self {index : Nat} {key : String} {v : Value} {s : LogSource}
    (hkey : key ≠ "log_processing_rules") (hv : Dict.get? s.members key = some v) :
    ∃ w, Dict.get? s.members key = some w ∧
      ShownBy [.key "logs", .item index, .key key] (readMember key v) w := by
  rw [readMember, Value.mapItemsOf, if_neg hkey]
  exact ⟨v, hv, ShownBy.refl _ v⟩

/-- Each field is shown as it was given, and does not change what is shown of the others. -/
theorem takesUp_fields (index : Nat) : Decode.TakesUp (Shows index) fields where
  takes := by
    intro f hf s n s' hwrite
    simp only [fields, List.mem_cons, List.not_mem_nil, or_false] at hf
    rcases hf with rfl | rfl | rfl | rfl | rfl | rfl | rfl <;>
      obtain ⟨x, hx, rfl⟩ := Decode.map_eq_ok_iff.mp hwrite <;> rintro v rfl hne
    · -- a type that is written as an object is shown as its only key
      rcases type_of_choice hx with rfl | rfl
      · exact shows_self (by decide) (by simp [members, Dict.get?_append, Dict.get?_part, Dict.get?])
      · exact ⟨.string x.text, by simp [members, Dict.get?_append, Dict.get?_part, Dict.get?],
          ShownBy.type index x.text⟩
    · obtain ⟨text, rfl, rfl⟩ := text_of_optional hx hne
      exact shows_self (by decide) (by simp [members, Dict.get?_append, Dict.get?_part])
    · obtain ⟨port, rfl, hport⟩ := port_of_optional hx hne
      exact shows_self (by decide) (by simp [members, Dict.get?_append, Dict.get?_part, hport])
    · obtain ⟨text, rfl, rfl⟩ := text_of_optional hx hne
      exact shows_self (by decide) (by simp [members, Dict.get?_append, Dict.get?_part])
    · obtain ⟨text, rfl, rfl⟩ := text_of_optional hx hne
      exact shows_self (by decide) (by simp [members, Dict.get?_append, Dict.get?_part])
    · have hv : v = .ofStrings x := texts_of_list hx
      subst hv
      have hsome : x.isEmpty = false := by
        cases x with
        | nil => cases hne
        | cons text rest => rfl
      exact shows_self (by decide) (by simp [members, Dict.get?_append, Dict.get?_part, hsome])
    · -- an empty list of rules would come from an empty array
      have hsome : x.isEmpty = false := by
        obtain ⟨items, rfl, hitems⟩ := Decode.list_ofValue_iff.mp hx
        cases hitems with
        | nil => cases hne
        | cons _ _ => rfl
      exact ⟨.array (x.map Rule.toValue),
        by simp [members, Dict.get?_append, Dict.get?_part, hsome], shownBy_rules hx _⟩
  keeps := by
    intro f hf s n s' hwrite key m hne hshows v hv hempty
    obtain ⟨w, hw, hshown⟩ := hshows v hv hempty
    -- what is shown under a key depends on the field of this name alone
    refine ⟨w, ?_, hshown⟩
    rw [← hw]
    have hne' := hne.symm
    simp only [fields, List.mem_cons, List.not_mem_nil, or_false] at hf
    rcases hf with rfl | rfl | rfl | rfl | rfl | rfl | rfl <;>
      obtain ⟨x, -, rfl⟩ := Decode.map_eq_ok_iff.mp hwrite <;>
      simp [members, Dict.get?_append, Dict.get?_part, Dict.get?, hne']

/-- All that is read of an entry is shown in the document form of the source. -/
theorem shownBy_toValue {v : Value} {s : LogSource} (h : decode (Node.ofValue v) = .ok s)
    (index : Nat) : ShownBy [.key "logs", .item index] (readPart v) s.toValue := by
  cases v with
  | object given =>
    rw [toValue_eq, readPart]
    refine ShownBy.object fun key part hpart hne => ?_
    rw [Dict.get?_mapEntries, Dict.get?_restrict] at hpart
    obtain ⟨v, hv, rfl⟩ := Option.map_eq_some_iff.mp hpart
    rw [readMember, Value.isEmpty_mapItemsOf] at hne
    split at hv
    · rename_i hchosen
      have hfield : ∃ f ∈ fields, f.name = key := by simpa [hasField] using hchosen
      exact Decode.record_takesUp (takesUp_fields index) h hv hfield v rfl hne
    · cases hv
  | _ => exact ShownBy.of_isEmpty rfl _

end LogSource

end ClusterMonitor

import ClusterMonitor.Log.Source
import ClusterMonitor.Proofs.Decode.Record
import ClusterMonitor.Proofs.Dict
import Mathlib.Algebra.Order.Group.Multiset
import Mathlib.Tactic.Abel

/-!
# Log sources through documents

A source that was decoded is decoded again from its own document form. The two halves meet at
`LogSource.Sound`, which holds of whatever is decoded, and is all that decoding the document form
asks for.

* `Rule.compiled_of_decode` and `Rule.decode_toValue` — the two halves for rules, which meet at a
  compiled pattern.
* `LogSource.sound_of_decode` and `LogSource.decode_toValue` — the two halves for sources.
-/

namespace ClusterMonitor

/-! ## Patterns and rules -/

/-- The expression is the one that the text compiles to. -/
def Pattern.Compiled (p : Pattern) : Prop := ofText p.text = .ok p

/-- A pattern that is made of a text is the pattern of this text. -/
theorem Pattern.compiled_of_ofText {text : String} {p : Pattern} (h : ofText text = .ok p) :
    p.Compiled := by
  obtain ⟨e, hcompile, rfl⟩ := Decode.map_eq_ok_iff.mp h
  exact Decode.map_eq_ok_iff.mpr ⟨e, hcompile, rfl⟩

theorem Pattern.compiled_of_decode {n : Node} {p : Pattern} (h : decode n = .ok p) :
    p.Compiled := by
  obtain ⟨text, -, h⟩ := Decode.bind_eq_ok_iff.mp h
  split at h
  · rename_i q hq
    cases h
    exact compiled_of_ofText hq
  · cases h

/-- A pattern is decoded again from its text. -/
theorem Pattern.decode_text {p : Pattern} (h : p.Compiled) :
    decode (Node.ofValue (.string p.text)) = .ok p := by
  have htext : Decode.text (Node.ofValue (.string p.text)) = .ok p.text := rfl
  refine Decode.bind_eq_ok_iff.mpr ⟨p.text, htext, ?_⟩
  rw [h]
  rfl

namespace Rule

/-- A rule under construction has a compiled pattern, if any, and will have that pattern. -/
def Drafted (d : (String → Pattern → String → Rule) × Draft) : Prop :=
  (∀ p, d.2.pattern = some p → p.Compiled) ∧ ∀ name p text, (d.1 name p text).pattern = p

/-- The fields of all kinds are a name, a pattern and a placeholder. -/
theorem mem_fields_of_mem_kinds {kind : String × Kind} (hkind : kind ∈ kinds)
    {f : Decode.Field Draft} (hf : f ∈ kind.2.fields) :
    f = nameField ∨ f = patternField ∨ f = placeholderField := by
  simp only [kinds, List.mem_cons, List.not_mem_nil, or_false] at hkind
  rcases hkind with rfl | rfl | rfl | rfl <;>
    simp only [List.mem_cons, List.not_mem_nil, or_false] at hf <;> tauto

/-- A rule has the pattern that it is made with. -/
theorem pattern_make {kind : String × Kind} (hkind : kind ∈ kinds) (name : String) (p : Pattern)
    (text : String) : (kind.2.make name p text).pattern = p := by
  simp only [kinds, List.mem_cons, List.not_mem_nil, or_false] at hkind
  rcases hkind with rfl | rfl | rfl | rfl <;> rfl

/-- Only the pattern of a draft is written by way of a pattern, and this one was compiled. -/
theorem compiled_of_write {kind : String × Kind} (hkind : kind ∈ kinds) {f : Decode.Field Draft}
    (hf : f ∈ kind.2.fields) {d d' : Draft} {n : Node} (h : f.write d n = .ok d')
    (hd : ∀ p, d.pattern = some p → p.Compiled) : ∀ p, d'.pattern = some p → p.Compiled := by
  rcases mem_fields_of_mem_kinds hkind hf with rfl | rfl | rfl
  · obtain ⟨x, -, rfl⟩ := Decode.map_eq_ok_iff.mp h
    exact hd
  · -- the pattern itself
    obtain ⟨q, hq, rfl⟩ := Decode.map_eq_ok_iff.mp h
    intro p hp
    cases hp
    exact Pattern.compiled_of_decode hq
  · obtain ⟨x, -, rfl⟩ := Decode.map_eq_ok_iff.mp h
    exact hd

/-- The pattern of a decoded rule is the one of its text. -/
theorem compiled_of_decode {n : Node} {r : Rule} (h : decode n = .ok r) : r.pattern.Compiled := by
  obtain ⟨⟨make, draft⟩, htagged, h⟩ := Decode.bind_eq_ok_iff.mp h
  have hdrafted : Drafted (make, draft) := by
    refine Decode.tagged_keeps ?_ htagged
    intro kind hkind
    refine ⟨⟨by simp, pattern_make hkind⟩, ?_⟩
    intro f hf s n s' hs hwrite
    obtain ⟨g, hg, rfl⟩ := List.mem_map.mp hf
    obtain ⟨d, hd, rfl⟩ := Decode.map_eq_ok_iff.mp hwrite
    exact ⟨compiled_of_write hkind hg hd hs.1, hs.2⟩
  cases hp : draft.pattern with
  | none =>
    simp only [hp] at h
    cases h
  | some p =>
    simp only [hp] at h
    cases h
    rw [hdrafted.2]
    exact hdrafted.1 p hp

/-- The placeholder of a rule that masks. -/
def placeholder? : Rule → Option String
  | .maskSequences _ _ placeholder => some placeholder
  | _ => none

/-- The members of a rule in the order of their keys. -/
def members (r : Rule) : Dict Value :=
  [("name", .string r.name), ("pattern", .string r.pattern.text)] ++
    Dict.part "replace_placeholder" (r.placeholder?.map Value.string) ++ [("type", .string r.kind)]

/-- The keys of a rule in their order. -/
theorem keys_members (r : Rule) :
    (Dict.keys r.members).Sublist ["name", "pattern", "replace_placeholder", "type"] := by
  simp only [members, Dict.keys_append]
  exact ((List.Sublist.refl ["name", "pattern"]).append (Dict.keys_part_sublist _ _)).append
    (List.Sublist.refl ["type"])

/-- The document form of a rule has these members. -/
theorem toValue_eq (r : Rule) : r.toValue = .object r.members := by
  have hpairs : r.toValue = .ofPairs ([("type", .string r.kind)] ++
      ([("name", .string r.name), ("pattern", .string r.pattern.text)] ++
        Dict.part "replace_placeholder" (r.placeholder?.map Value.string))) := by
    cases r <;> rfl
  rw [hpairs]
  exact congrArg Value.object (Dict.ofPairs_eq_of_perm List.perm_append_comm
    (Dict.ordered_of_keys_sublist r.keys_members (by decide)))

/-- The kind that a rule is written under makes the same rule. -/
theorem lookup_kind (r : Rule) :
    ∃ k, kinds.lookup r.kind = some k ∧
      k.fields = [nameField, patternField] ++
        (r.placeholder?.map fun _ => placeholderField).toList ∧
      k.make r.name r.pattern (r.placeholder?.getD "") = r := by
  cases r <;> exact ⟨_, rfl, rfl, rfl⟩

/-- A rule with a compiled pattern is decoded again from its document form. -/
theorem decode_toValue {r : Rule} (h : r.pattern.Compiled) :
    decode (Node.ofValue r.toValue) = .ok r := by
  obtain ⟨k, hk, hfields, hmake⟩ := lookup_kind r
  have hpattern : Pattern.decode (.scalar (.string r.pattern.text) none) = .ok r.pattern :=
    Pattern.decode_text h
  rw [toValue_eq, members]
  refine Decode.bind_eq_ok_iff.mpr
    ⟨(k.make, ⟨r.name, some r.pattern, r.placeholder?.getD ""⟩), ?_, congrArg Except.ok hmake⟩
  -- a placeholder is one more member, and one more field of the kind
  cases hplaceholder : r.placeholder? with
  | none =>
    refine (Decode.tagged_of_last hk [("name", .scalar (.string r.name) none),
      ("pattern", .scalar (.string r.pattern.text) none)] (by simp) rfl).trans ?_
    refine Decode.ofMapping_of_writes _ (by simp) ?_ ?_
    · simp [hfields, nameField, patternField, hplaceholder]
    · simp [hfields, nameField, patternField, Decode.writeMember, List.foldlM_cons, Except.map,
        Decode.text, Node.bare, hpattern]
      rfl
  | some text =>
    refine (Decode.tagged_of_last hk [("name", .scalar (.string r.name) none),
      ("pattern", .scalar (.string r.pattern.text) none),
      ("replace_placeholder", .scalar (.string text) none)] (by simp) rfl).trans ?_
    refine Decode.ofMapping_of_writes _ (by simp) ?_ ?_
    · simp [hfields, nameField, patternField, placeholderField, hplaceholder]
    · simp [hfields, nameField, patternField, placeholderField, Decode.writeMember,
        List.foldlM_cons, Except.map, Decode.text, Node.bare, hpattern, hplaceholder]
      rfl

end Rule

/-! ## Sources -/

namespace LogSource
/-- What decoding promises of a source, and needs to give it back. -/
structure Sound (s : LogSource) : Prop where
  port_le : ∀ n, s.port = some n → n ≤ 65535
  compiled : ∀ r ∈ s.rules, r.pattern.Compiled

/-- A decoded port has 16 bits. -/
theorem port_le_of_decode {n : Node} {x : Option Int} {port : Nat}
    (h : Decode.optional (Decode.integer 0 65535 "u16") n = .ok x)
    (hport : x.map Int.toNat = some port) : port ≤ 65535 := by
  unfold Decode.optional at h
  split at h
  · cases h
    cases hport
  · obtain ⟨y, hy, rfl⟩ := Decode.map_eq_ok_iff.mp h
    unfold Decode.integer at hy
    split at hy
    · split at hy
      · cases hy
        cases hport
        omega
      · cases hy
    · cases hy

/-- A decoded source is sound. -/
theorem sound_of_decode {n : Node} {s : LogSource} (h : decode n = .ok s) : s.Sound := by
  refine Decode.record_keeps ?_ ⟨by simp, by simp⟩ h
  intro f hf s n s' hs hwrite
  simp only [fields, List.mem_cons, List.not_mem_nil, or_false] at hf
  rcases hf with rfl | rfl | rfl | rfl | rfl | rfl | rfl <;>
    obtain ⟨x, hx, rfl⟩ := Decode.map_eq_ok_iff.mp hwrite
  · exact ⟨hs.port_le, hs.compiled⟩
  · exact ⟨hs.port_le, hs.compiled⟩
  · exact ⟨fun _ => port_le_of_decode hx, hs.compiled⟩
  · exact ⟨hs.port_le, hs.compiled⟩
  · exact ⟨hs.port_le, hs.compiled⟩
  · exact ⟨hs.port_le, hs.compiled⟩
  · refine ⟨hs.port_le, ?_⟩
    intro r hr
    obtain ⟨m, hm⟩ := Decode.exists_of_mem_list hx hr
    exact Rule.compiled_of_decode hm

/-- The members of a source in the order of their keys. -/
def members (s : LogSource) : Dict Value :=
  Dict.part "log_processing_rules"
      (if s.rules.isEmpty then none else some (.array (s.rules.map Rule.toValue))) ++
    Dict.part "path" (s.path.map Value.string) ++
    Dict.part "port" (s.port.map fun n : Nat => Value.int n) ++
    Dict.part "service" (s.service.map Value.string) ++
    Dict.part "source" (s.source.map Value.string) ++
    Dict.part "tags" (if s.tags.isEmpty then none else some (.ofStrings s.tags)) ++
    [("type", .string s.kind.text)]

/-- The keys of a source in their order, some of which may be missing. -/
theorem keys_members (s : LogSource) :
    (Dict.keys s.members).Sublist
      ["log_processing_rules", "path", "port", "service", "source", "tags", "type"] := by
  simp only [members, Dict.keys_append]
  have hpart (key : String) (v : Option Value) := Dict.keys_part_sublist key v
  exact ((((((hpart _ _).append (hpart _ _)).append (hpart _ _)).append (hpart _ _)).append
    (hpart _ _)).append (hpart _ _)).append (List.Sublist.refl ["type"])

/-- The document form has the members in the order of their keys. -/
theorem toValue_eq (s : LogSource) : s.toValue = .object s.members := by
  refine congrArg Value.object (Dict.ofPairs_eq_of_perm ?_
    (Dict.ordered_of_keys_sublist s.keys_members (by decide)))
  have hport : (do let n ← s.port; pure (n : Int)).map Value.int =
      s.port.map fun n : Nat => Value.int n := by
    cases s.port <;> rfl
  simp only [members, Dict.toList_map_pair, Dict.ite_pair, hport]
  rw [← Multiset.coe_eq_coe]
  simp only [← Multiset.coe_add]
  abel

/-- A kind of source is decoded from its name. -/
theorem decode_kind (kind : SourceKind) :
    Decode.choice SourceKind.known (Node.ofValue (.string kind.text)) = .ok kind := by
  cases kind <;> rfl

/-- A port is decoded again if it has 16 bits. -/
theorem decode_port {port : Option Nat} (h : ∀ n, port = some n → n ≤ 65535) {x : Int}
    (hx : port.map Int.ofNat = some x) : (Node.ofValue (.int x)).isNull = false ∧
      Decode.integer 0 65535 "u16" (Node.ofValue (.int x)) = .ok x := by
  obtain ⟨n, hn, rfl⟩ := Option.map_eq_some_iff.mp hx
  have hbounds : (0 : Int) ≤ n ∧ (n : Int) ≤ 65535 := by
    have hn := h n hn
    omega
  exact ⟨rfl, by simp [Decode.integer, Node.ofValue, Node.bare, hbounds]⟩

theorem port_eq (s : LogSource) :
    s.port.map (fun n : Nat => Value.int n) = (s.port.map Int.ofNat).map Value.int := by
  cases s.port <;> rfl

theorem type_mem_members (s : LogSource) :
    "type" ∈ (Node.ofMembers s.members).map Prod.fst := by
  rw [Node.ofMembers_eq]
  simp [Dict.mapValues, members]

/-- The members write the fields of the source, one after another. -/
theorem foldlM_members {s : LogSource} (h : s.Sound) :
    (Node.ofMembers s.members).foldlM (Decode.writeMember fields) { kind := .file } = .ok s := by
  have htext (x : String) : (Node.ofValue (.string x)).isNull = false ∧
      Decode.text (Node.ofValue (.string x)) = .ok x := ⟨rfl, rfl⟩
  -- each member starts from what the ones before it have written
  have hrules := Decode.foldlM_list fields "log_processing_rules" s.rules
    (fun x => { kind := .file, rules := x }) rfl (fun _ => rfl)
    (fun r hr => Rule.decode_toValue (h.compiled r hr)) rfl
  have hpath := Decode.foldlM_optional fields "path" s.path
    (fun x => { kind := .file, rules := s.rules, path := x }) rfl (fun _ => rfl)
    (fun x _ => htext x) rfl
  have hport := Decode.foldlM_optional fields "port" (s.port.map Int.ofNat)
    (fun x => { kind := .file, rules := s.rules, path := s.path, port := x.map Int.toNat })
    rfl (fun _ => rfl) (fun _ hx => decode_port h.port_le hx) rfl
  have hservice := Decode.foldlM_optional fields "service" s.service
    (fun x => { s with kind := .file, source := none, tags := [], service := x })
    rfl (fun _ => rfl) (fun x _ => htext x) rfl
  have hsource := Decode.foldlM_optional fields "source" s.source
    (fun x => { s with kind := .file, tags := [], source := x })
    rfl (fun _ => rfl) (fun x _ => htext x) rfl
  have htags := Decode.foldlM_list fields "tags" s.tags
    (fun x => { s with kind := .file, tags := x }) rfl (fun _ => rfl)
    (fun x _ => (htext x).2) rfl
  have hkind : (Dict.mapValues Node.ofValue [("type", Value.string s.kind.text)]).foldlM
      (Decode.writeMember fields) { s with kind := .file } = .ok s := by
    simp [Dict.mapValues, Decode.writeMember, fields, decode_kind, Except.map]
  -- the port is decoded as an integer and kept as a natural number
  have hnat : (s.port.map Int.ofNat).map Int.toNat = s.port := by
    cases s.port <;> rfl
  rw [hnat] at hport
  simp only [Node.ofMembers_eq, members, Dict.mapValues_append, Dict.mapValues_part, port_eq]
  exact Decode.foldlM_writeMember_append (Decode.foldlM_writeMember_append
    (Decode.foldlM_writeMember_append (Decode.foldlM_writeMember_append
      (Decode.foldlM_writeMember_append (Decode.foldlM_writeMember_append hrules hpath) hport)
      hservice) hsource) htags) hkind

/-- A sound source is decoded again from its document form. -/
theorem decode_toValue {s : LogSource} (h : s.Sound) : decode (Node.ofValue s.toValue) = .ok s := by
  rw [toValue_eq]
  refine Decode.ofMapping_of_writes (Node.ofMembers s.members) ?_ ?_ (foldlM_members h)
  · rw [Node.ofMembers_eq]
    have := s.keys_members.nodup (by decide)
    rwa [← Dict.keys_mapValues Node.ofValue] at this
  · intro f hf hrequired
    simp only [fields, List.mem_cons, List.not_mem_nil, or_false] at hf
    rcases hf with rfl | rfl | rfl | rfl | rfl | rfl | rfl
    · exact type_mem_members s
    all_goals cases hrequired

end LogSource

end ClusterMonitor

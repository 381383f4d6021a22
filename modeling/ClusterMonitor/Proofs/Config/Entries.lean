import ClusterMonitor.Proofs.Config.Overrides

/-!
# Documents with other entries

The entries of `instances` in a document changed, and the rest of it as it was. Documents that are
laid over one another can be changed before or after, and the environment has no entries to change.

* `Configuration.mapDocument` — a document with its entries changed.
* `Configuration.read_mapDocument` — what is read of it.
* `Configuration.readInstances_modify` — what is read of entries of which one is changed.
* `Configuration.overlay_mapDocument` — changing layers, and what they make together.
* `Engine.build_mapDocument` — what is built from a file whose entries are changed.
-/

namespace ClusterMonitor

namespace Configuration

variable (f : List Value → List Value)

/-- A member of a document, changed if it is the list of entries. -/
def mapMember (key : String) (v : Value) : Value :=
  match v with
  | .array entries => if key = "instances" then .array (f entries) else v
  | v => v

/-- A document with its entries changed. -/
def mapDocument : Value → Value
  | .object members => .object (Dict.mapEntries (mapMember f) members)
  | v => v

/-- Members other than `instances` are left alone. -/
theorem mapMember_of_ne {key : String} (h : key ≠ "instances") (v : Value) :
    mapMember f key v = v := by
  cases v <;> simp [mapMember, h]

theorem get?_mapMember_of_ne {key : String} (h : key ≠ "instances") (members : Dict Value) :
    Dict.get? (Dict.mapEntries (mapMember f) members) key = Dict.get? members key := by
  have hsame : mapMember f key = id := funext (mapMember_of_ne f h)
  rw [Dict.get?_mapEntries, hsame, Option.map_id, id]

/-! ## Reading -/

/-- Changing the entries does not change whether there are any. -/
theorem entriesOf_mapDocument (hf : ∀ entries, f entries = [] ↔ entries = []) (document : Value) :
    entriesOf (mapDocument f document) =
      (entriesOf document).map fun p => (Dict.mapEntries (mapMember f) p.1, f p.2) := by
  cases document with
  | object members =>
    have hget := Dict.get?_mapEntries (mapMember f) members "instances"
    cases hv : Dict.get? members "instances" with
    | none => simp [mapDocument, entriesOf, hget, hv, Except.map]
    | some v =>
      cases v with
      | array entries =>
        cases entries with
        | nil => simp [mapDocument, entriesOf, hget, hv, mapMember, Except.map, (hf []).mpr]
        | cons entry rest =>
          obtain ⟨entry', rest', hchanged⟩ :=
            List.exists_cons_of_ne_nil (mt (hf (entry :: rest)).mp (List.cons_ne_nil entry rest))
          simp [mapDocument, entriesOf, hget, hv, mapMember, Except.map, hchanged]
      | _ => simp [mapDocument, entriesOf, hget, hv, mapMember, Except.map]
  | _ => rfl

/-- Of a document with changed entries the same is read as before, but for the entries. -/
theorem read_mapDocument (hf : ∀ entries, f entries = [] ↔ entries = []) (s : Schema)
    (document : Value) :
    read s (mapDocument f document) =
      match entriesOf document with
      | .error fault => .error fault.error
      | .ok (members, entries) => .ok (ofMembers s members (f entries)) := by
  have hunknown : ∀ members,
      unknownMembers (Dict.mapEntries (mapMember f) members) = unknownMembers members := by
    intro members
    rw [unknownMembers, unknownMembers, Dict.keys_mapEntries]
  rw [read, entriesOf_mapDocument f hf]
  rcases entriesOf document with fault | ⟨members, entries⟩
  · rfl
  · have hinit := get?_mapMember_of_ne f (show "init_config" ≠ "instances" by decide) members
    have hlogs := get?_mapMember_of_ne f (show "logs" ≠ "instances" by decide) members
    simp only [Except.map, hinit, hlogs, hunknown]
    rfl

/-- Entries are read in two parts, the second counting on from the first. -/
theorem readInstances_append (s : Schema) (start : Nat) (xs ys : List Value) :
    readInstances s start (xs ++ ys) =
      ((readInstances s start xs).1 ++ (readInstances s (start + xs.length) ys).1,
        (readInstances s start xs).2 ++ (readInstances s (start + xs.length) ys).2) := by
  induction xs generalizing start with
  | nil => rfl
  | cons entry rest ih =>
    have hstart : start + 1 + rest.length = start + (entry :: rest).length := by
      rw [List.length_cons]
      omega
    simp only [List.cons_append, readInstances, ih (start + 1), hstart, List.append_assoc]

/-- The other entries are read as they were. -/
theorem readInstances_modify {s : Schema} {entries : List Value} {index : Nat} {entry : Value}
    (h : entries[index]? = some entry) :
    ∃ before after : List InstanceOutcome × List Diagnostic, ∀ f : Value → Value,
      readInstances s 0 (entries.modify index f) =
        (before.1 ++ (readInstance s index (f entry)).1 :: after.1,
          before.2 ++ ((readInstance s index (f entry)).2 ++ after.2)) := by
  obtain ⟨hlt, rfl⟩ := List.getElem?_eq_some_iff.mp h
  have hplace : 0 + (entries.take index).length = index := by
    rw [Nat.zero_add, List.length_take_of_le (le_of_lt hlt)]
  refine ⟨readInstances s 0 (entries.take index),
    readInstances s (index + 1) (entries.drop (index + 1)), fun f => ?_⟩
  rw [List.modify_eq_take_cons_drop hlt, readInstances_append, hplace]
  rfl

/-! ## Layers -/

/-- A change of entries commutes with laying one member over another. -/
theorem overlay_mapMember (key : String) (base v : Value) :
    (mapMember f key base).overlay (mapMember f key v) = mapMember f key (base.overlay v) := by
  cases v with
  | object members =>
    cases base with
    | array entries => by_cases hkey : key = "instances" <;> simp [mapMember, hkey, Value.overlay]
    | _ => rfl
  | array entries => by_cases hkey : key = "instances" <;> simp [mapMember, hkey, Value.overlay]
  | _ => rfl

theorem overlayOn_mapMember (key : String) (below : Option Value) (v : Value) :
    Value.overlayOn (below.map (mapMember f key)) (mapMember f key v) =
      mapMember f key (Value.overlayOn below v) := by
  cases below with
  | none => rfl
  | some base => exact overlay_mapMember f key base v

theorem overlayMembers_mapMember (base members : Dict Value) :
    Value.overlayMembers (Dict.mapEntries (mapMember f) base)
        (Dict.mapEntries (mapMember f) members) =
      Dict.mapEntries (mapMember f) (Value.overlayMembers base members) := by
  induction members generalizing base with
  | nil => rfl
  | cons m rest ih =>
    obtain ⟨key, v⟩ := m
    rw [Dict.mapEntries_cons, Value.overlayMembers_cons, Value.overlayMembers_cons,
      Dict.get?_mapEntries, overlayOn_mapMember, Dict.set_mapEntries, ih]

/-- Layers can be changed one by one, or as what they make together. -/
theorem overlay_mapDocument (base layer : Value) :
    (mapDocument f base).overlay (mapDocument f layer) = mapDocument f (base.overlay layer) := by
  cases layer with
  | object members =>
    cases base with
    | object below => exact congrArg Value.object (overlayMembers_mapMember f below members)
    | _ => rfl
  | _ => rfl

/-- Variables say nothing of entries. -/
theorem mapDocument_environment (opening : String) (e : Environment) :
    mapDocument f (Environment.document opening e) = Environment.document opening e := by
  rcases Environment.document_cases opening e with h | ⟨v, h⟩
  · rw [h]
    rfl
  · have hne : Environment.overriddenSection ≠ "instances" := by decide
    rw [h, mapDocument, Dict.mapEntries_cons, Dict.mapEntries_nil, mapMember_of_ne f hne]

end Configuration

/-! ## Files -/

namespace Engine

open ClusterMonitor.Configuration (mapDocument)

/-- What a file says, with the variables of the environment over it. -/
def overridden (e : Environment) (layer : Value) : Value :=
  ((Value.object []).overlay layer).overlay (Environment.document Environment.defaultOpening e)

/-- A configuration that is built of one file is read from the file with the environment laid over
it. -/
theorem build_ofFile {s : Surroundings} {path : String} {layer : Value}
    (h : Source.readFile s path = .ok layer) :
    (ofFile path).build s = Configuration.read .builtin (overridden s.environment layer) := by
  have hdocument : (ofFile path).document s = .ok (overridden s.environment layer) := by
    simp [document, ofFile, overlaySources, Source.read, h, overridden]
  have hschema : (ofFile path).schema = .builtin := rfl
  simp only [build, hdocument, hschema]
  cases Configuration.read Schema.builtin (overridden s.environment layer) <;> rfl

/-- From a file with changed entries the document is built that the file makes as it was, with its
entries changed. -/
theorem build_mapDocument (f : List Value → List Value) {s : Surroundings} {path : String}
    {layer : Value} (h : Source.readFile s path = .ok (mapDocument f layer)) :
    (ofFile path).build s =
      Configuration.read .builtin (mapDocument f (overridden s.environment layer)) := by
  have hchanged : overridden s.environment (mapDocument f layer) =
      mapDocument f (overridden s.environment layer) := by
    -- neither what is under the file nor what is over it has entries
    have hbelow : Value.object [] = mapDocument f (.object []) := rfl
    rw [overridden, overridden, ← Configuration.overlay_mapDocument,
      Configuration.mapDocument_environment, ← Configuration.overlay_mapDocument, ← hbelow]
  rw [build_ofFile h, hchanged]

end Engine

end ClusterMonitor

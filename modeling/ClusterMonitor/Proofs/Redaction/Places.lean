import ClusterMonitor.Proofs.Config.Shown
import ClusterMonitor.Proofs.Redaction.Values

/-!
# What redaction leaves at each place of a value

Members with secret keys are masked, at any depth, and the texts that are left are redacted. Read
place by place: a path that goes into no secret member leads to the same place as before, a path to
a secret member ends at the mask, and there is nothing inside a mask. So what is inside secret
members makes no difference.

* `Value.EntersSecret` — a path goes into a secret member.
* `Redactor.Leaves` — what becomes of a value that is not masked.
* `Value.SameOutside` — values that differ in nothing but what is inside secret members.
* `Redactor.follow?_redactValue`, `Redactor.follow?_redactValue_secret` — the places of a redacted
  value.
* `Redactor.redactValue_of_sameOutside` — two values, redacted side by side.
* `Redactor.redactValue_places` — all of it together.
-/

namespace ClusterMonitor

namespace Value

/-! ## Paths and secret members -/

/-- To follow two paths is to follow the second from where the first leads. -/
theorem follow?_append (v : Value) (before after : List Step) :
    v.follow? (before ++ after) = (v.follow? before).bind fun w => w.follow? after := by
  induction before generalizing v with
  | nil => rfl
  | cons step before ih =>
    cases v <;> cases step <;> simp [follow?, ih, Option.bind_assoc]

/-- A path goes into a secret member: somewhere on its way it comes to a member with a secret key
that is not `null`. -/
def EntersSecret (secretKeys : List String) (v : Value) (path : List Step) : Prop :=
  ∃ before name w, before ++ [.key name] <+: path ∧ name ∈ secretKeys ∧
    v.follow? (before ++ [.key name]) = some w ∧ w ≠ .null

variable {secretKeys : List String}

/-- A path that goes on into a secret member of a part goes into it from the whole. -/
theorem EntersSecret.of_part {v w : Value} {begun path : List Step}
    (hpart : v.follow? begun = some w) (h : w.EntersSecret secretKeys path) :
    v.EntersSecret secretKeys (begun ++ path) := by
  obtain ⟨before, name, u, hbefore, hname, hu, hnull⟩ := h
  refine ⟨begun ++ before, name, u, ?_, hname, ?_, hnull⟩
  · rw [List.append_assoc]
    exact (List.prefix_append_right_inj begun).mpr hbefore
  · rw [List.append_assoc, follow?_append, hpart, Option.bind_some, hu]

/-- A path that enters a secret member goes on inside it. -/
theorem EntersSecret.of_member {v w : Value} {name : String} (hw : v.follow? [.key name] = some w)
    (hname : name ∈ secretKeys) (hnull : w ≠ .null) (path : List Step) :
    v.EntersSecret secretKeys (.key name :: path) :=
  ⟨[], name, w, List.cons_prefix_cons.mpr ⟨rfl, List.nil_prefix⟩, hname, hw, hnull⟩

/-- A path without secret keys enters no secret member. -/
theorem not_entersSecret_of_open {v : Value} {path : List Step}
    (h : ∀ name, .key name ∈ path → name ∉ secretKeys) : ¬ v.EntersSecret secretKeys path := by
  rintro ⟨before, name, w, hbefore, hname, -, -⟩
  exact h name (hbefore.subset (by simp)) hname

mutual

/-- The values differ in nothing but what is inside secret members. -/
def SameOutside (secretKeys : List String) : Value → Value → Prop
  | .array items, .array items' => SameItemsOutside secretKeys items items'
  | .object members, .object members' => SameMembersOutside secretKeys members members'
  | v, w => v = w

/-- The same for items, each in its place. -/
def SameItemsOutside (secretKeys : List String) : List Value → List Value → Prop
  | [], [] => True
  | v :: rest, w :: rest' => SameOutside secretKeys v w ∧ SameItemsOutside secretKeys rest rest'
  | _, _ => False

/-- The same for members: the keys are the same, and a secret member that is not `null` in either
object may be any other value. -/
def SameMembersOutside (secretKeys : List String) :
    List (String × Value) → List (String × Value) → Prop
  | [], [] => True
  | (key, v) :: rest, (key', w) :: rest' =>
    key = key' ∧ ((key ∈ secretKeys ∧ v ≠ .null ∧ w ≠ .null) ∨ SameOutside secretKeys v w) ∧
      SameMembersOutside secretKeys rest rest'
  | _, _ => False

end

/-- Values that are the same outside of secret members are both null, or neither. -/
theorem isNull_of_sameOutside {v w : Value} (h : v.SameOutside secretKeys w) :
    v.isNull = w.isNull := by
  cases v with
  | array items =>
    cases w with
    | array items' => rfl
    | _ => cases h
  | object members =>
    cases w with
    | object members' => rfl
    | _ => cases h
  | _ =>
    cases w <;> cases h
    rfl

end Value

namespace Redactor

variable (r : Redactor) (secretKeys : List String)

/-! ## One value -/

/-- What becomes of a value that is not masked: a text is redacted, an array keeps its length and an
object its keys, and all else stays as it is. -/
inductive Leaves (r : Redactor) : Value → Value → Prop where
  | null : Leaves r .null .null
  | bool (b : Bool) : Leaves r (.bool b) (.bool b)
  | int (n : Int) : Leaves r (.int n) (.int n)
  | float (x : Float) : Leaves r (.float x) (.float x)
  | string (text : String) : Leaves r (.string text) (.string (r.redact text))
  | array {items shown : List Value} (h : shown.length = items.length) :
      Leaves r (.array items) (.array shown)
  | object {members shown : Dict Value} (h : Dict.keys shown = Dict.keys members) :
      Leaves r (.object members) (.object shown)

/-- Redaction leaves the kind of a value: strings are redacted, arrays and objects keep their shape,
and all else stays. -/
theorem leaves_redactValue (v : Value) : r.Leaves v (r.redactValue secretKeys v) := by
  cases v with
  | null => exact .null
  | bool b => exact .bool b
  | int n => exact .int n
  | float x => exact .float x
  | string text => exact .string text
  | array items =>
    rw [redactValue, redactItems_eq]
    exact .array (List.length_map _)
  | object members =>
    rw [redactValue, redactMembers_eq]
    exact .object (Dict.keys_mapEntries _ _)

theorem redactMembers_cons (key : String) (v : Value) (rest : Dict Value) :
    r.redactMembers secretKeys ((key, v) :: rest) =
      (key, r.redactMember secretKeys key v) :: r.redactMembers secretKeys rest := rfl

variable {r secretKeys}

/-- A secret member that is not null is masked whole. -/
theorem redactMember_secret (hmask : r.digests = false) {name : String} (hname : name ∈ secretKeys)
    {v : Value} (hv : v ≠ .null) : r.redactMember secretKeys name v = .string secretMask := by
  have hgiven : v.isNull = false := by
    cases v with
    | null => exact absurd rfl hv
    | _ => rfl
  rw [redactMember, mask_eq_secretMask r hmask, if_pos (by simp [hname, hgiven])]

/-- A member that is not secret, or `null`, is redacted like any other value. -/
theorem redactMember_open {name : String} {v : Value} (h : name ∉ secretKeys ∨ v = .null) :
    r.redactMember secretKeys name v = r.redactValue secretKeys v := by
  refine if_neg ?_
  rcases h with hname | rfl
  · simp [hname]
  · simp [Value.isNull]

/-! ## Place by place -/

/-- Below a key, the redacted value is the redacted member. -/
theorem follow?_redactValue_key (v : Value) (name : String) (path : List Step) :
    (r.redactValue secretKeys v).follow? (.key name :: path) =
      ((v.follow? [.key name]).map (r.redactMember secretKeys name)).bind
        fun w => w.follow? path := by
  cases v with
  | object members =>
    rw [redactValue, redactMembers_eq, Value.follow?, Dict.get?_mapEntries, Value.follow?]
    cases Dict.get? members name <;> rfl
  | _ => rfl

/-- Below an index, the redacted value is the redacted item. -/
theorem follow?_redactValue_item (v : Value) (index : Nat) (path : List Step) :
    (r.redactValue secretKeys v).follow? (.item index :: path) =
      ((v.follow? [.item index]).map (r.redactValue secretKeys)).bind
        fun w => w.follow? path := by
  cases v with
  | array items =>
    rw [redactValue, redactItems_eq, Value.follow?, List.getElem?_map, Value.follow?]
    cases items[index]? <;> rfl
  | _ => rfl

/-- A path that goes into no secret member leads to the same place as before, redacted. -/
theorem follow?_redactValue {v : Value} {path : List Step}
    (h : ¬ v.EntersSecret secretKeys path) :
    (r.redactValue secretKeys v).follow? path =
      (v.follow? path).map (r.redactValue secretKeys) := by
  induction path generalizing v with
  | nil => rfl
  | cons step path ih =>
    have hsplit : v.follow? (step :: path) = (v.follow? [step]).bind fun w => w.follow? path :=
      v.follow?_append [step] path
    -- what is left of the path goes into no secret member of the part that the step leads to
    have hrest : ∀ w, v.follow? [step] = some w → ¬ w.EntersSecret secretKeys path :=
      fun w hw hpath => h (hpath.of_part hw)
    cases step with
    | key name =>
      rw [follow?_redactValue_key, hsplit]
      cases hw : v.follow? [.key name] with
      | none => rfl
      | some w =>
        have hopen : name ∉ secretKeys ∨ w = .null := by
          by_contra hsecret
          obtain ⟨hname, hnull⟩ := not_or.mp hsecret
          exact h (.of_member hw (not_not.mp hname) hnull path)
        simp only [Option.map_some, Option.bind_some]
        rw [redactMember_open hopen, ih (hrest w hw)]
    | item index =>
      rw [follow?_redactValue_item, hsplit]
      cases hw : v.follow? [.item index] with
      | none => rfl
      | some w => exact ih (hrest w hw)

/-- A path to a secret member ends at the mask, whatever the member is. -/
theorem follow?_redactValue_secret (hmask : r.digests = false) {v w : Value} {path : List Step}
    {name : String} (hpath : ¬ v.EntersSecret secretKeys path) (hname : name ∈ secretKeys)
    (hw : v.follow? (path ++ [.key name]) = some w) (hnull : w ≠ .null) :
    (r.redactValue secretKeys v).follow? (path ++ [.key name]) = some (.string secretMask) := by
  rw [Value.follow?_append] at hw ⊢
  obtain ⟨u, hu, hmember⟩ := Option.bind_eq_some_iff.mp hw
  rw [follow?_redactValue hpath, hu, Option.map_some, Option.bind_some, follow?_redactValue_key,
    hmember, Option.map_some, redactMember_secret hmask hname hnull]
  rfl

/-! ## Two values side by side -/

mutual

/-- What is inside secret members makes no difference. -/
theorem redactValue_of_sameOutside (hmask : r.digests = false) :
    ∀ {v w : Value}, v.SameOutside secretKeys w →
      r.redactValue secretKeys v = r.redactValue secretKeys w
  | .array items, w, h => by
    cases w with
    | array items' => rw [redactValue, redactValue, redactItems_of_sameOutside hmask h]
    | _ => cases h
  | .object members, w, h => by
    cases w with
    | object members' => rw [redactValue, redactValue, redactMembers_of_sameOutside hmask h]
    | _ => cases h
  | .null, w, h | .bool _, w, h | .int _, w, h | .float _, w, h | .string _, w, h => by
    cases w <;> cases h
    rfl

theorem redactItems_of_sameOutside (hmask : r.digests = false) :
    ∀ {items items' : List Value}, Value.SameItemsOutside secretKeys items items' →
      r.redactItems secretKeys items = r.redactItems secretKeys items'
  | [], items', h => by
    cases items' with
    | nil => rfl
    | cons w rest' => cases h
  | v :: rest, items', h => by
    cases items' with
    | nil => cases h
    | cons w rest' =>
      rw [redactItems, redactItems, redactValue_of_sameOutside hmask h.1,
        redactItems_of_sameOutside hmask h.2]

theorem redactMembers_of_sameOutside (hmask : r.digests = false) :
    ∀ {members members' : List (String × Value)},
      Value.SameMembersOutside secretKeys members members' →
      r.redactMembers secretKeys members = r.redactMembers secretKeys members'
  | [], members', h => by
    cases members' with
    | nil => rfl
    | cons m rest' => cases h
  | (key, v) :: rest, members', h => by
    cases members' with
    | nil => cases h
    | cons m rest' =>
      obtain ⟨key', w⟩ := m
      obtain ⟨rfl, hvalue, hrest⟩ := h
      have hmember : r.redactMember secretKeys key v = r.redactMember secretKeys key w := by
        rcases hvalue with ⟨hkey, hv, hw⟩ | hsame
        · rw [redactMember_secret hmask hkey hv, redactMember_secret hmask hkey hw]
        · exact redactMember_congr r secretKeys hmask (Value.isNull_of_sameOutside hsame)
            (Or.inr (redactValue_of_sameOutside hmask hsame))
      rw [redactMembers_cons, redactMembers_cons, hmember, redactMembers_of_sameOutside hmask hrest]

end

/-- Redaction by key, at any depth, with the mask in the place of secrets. Along every path that goes
into no secret member the values are the ones that were there, with their texts redacted, and there
are no others. Where such a path comes to a secret member the mask is found. And a value that differs
in nothing but what is inside secret members is redacted to the same. -/
theorem redactValue_places (r : Redactor) (hmask : r.digests = false) (secretKeys : List String)
    (v : Value) :
    let shown := r.redactValue secretKeys v
    (∀ path, ¬ v.EntersSecret secretKeys path →
      Option.Rel r.Leaves (v.follow? path) (shown.follow? path)) ∧
    (∀ path name w, ¬ v.EntersSecret secretKeys path → name ∈ secretKeys →
      v.follow? (path ++ [.key name]) = some w → w ≠ .null →
      shown.follow? (path ++ [.key name]) = some (.string secretMask)) ∧
    ∀ w, v.SameOutside secretKeys w → r.redactValue secretKeys w = shown := by
  intro shown
  refine ⟨?_, ?_, ?_⟩
  · intro path hpath
    rw [follow?_redactValue hpath]
    cases v.follow? path with
    | none => exact .none
    | some w => exact .some (leaves_redactValue r secretKeys w)
  · intro path name w hpath hname hw hnull
    exact follow?_redactValue_secret hmask hpath hname hw hnull
  · intro w hsame
    exact (redactValue_of_sameOutside hmask hsame).symm

/-- A password is masked where it stands, a text as well as a list, and the number beside it stays. -/
theorem redactValue_places_two_passwords :
    let document := fun (password : Value) => Value.object
      [("instances", .array [.object [("password", password), ("timeout", .int 10)]])]
    let first := document (.string "hunter2")
    let second := document (.array [.object [("timeout", .null)]])
    let shown := ({} : Redactor).redactValue ["password"] first
    shown.follow? [.key "instances", .item 0, .key "password"] = some (.string secretMask) ∧
      shown.follow? [.key "instances", .item 0, .key "timeout"] = some (.int 10) ∧
      ({} : Redactor).redactValue ["password"] second = shown := by
  intro document first second shown
  obtain ⟨hopen, hsecret, hsame⟩ := redactValue_places {} rfl ["password"] first
  have hentry : ¬ first.EntersSecret ["password"] [.key "instances", .item 0] :=
    Value.not_entersSecret_of_open (by simp)
  have htimeout : ¬ first.EntersSecret ["password"] [.key "instances", .item 0, .key "timeout"] :=
    Value.not_entersSecret_of_open (by simp)
  refine ⟨hsecret _ "password" _ hentry (by simp) rfl nofun, ?_, hsame second ?_⟩
  · have hleft := hopen _ htimeout
    generalize shown.follow? _ = found at hleft ⊢
    cases hleft with
    | some h =>
      cases h
      rfl
  · have hpassword : Value.SameMembersOutside ["password"]
        [("password", .string "hunter2"), ("timeout", .int 10)]
        [("password", .array [.object [("timeout", .null)]]), ("timeout", .int 10)] :=
      ⟨rfl, Or.inl ⟨by simp, nofun, nofun⟩, rfl, Or.inr rfl, trivial⟩
    exact ⟨rfl, Or.inr ⟨hpassword, trivial⟩, trivial⟩

end Redactor

end ClusterMonitor

import ClusterMonitor.Proofs.Config.Entries
import ClusterMonitor.Proofs.Config.RoundTrip
import ClusterMonitor.Proofs.Redaction.Values

/-!
# Passwords are not shown

Nothing that an operator is shown depends on the text of a password. Two documents that differ in
such texts only are the same when the passwords are blanked. To blank the passwords of a document
comes to the same as to blank those of what is read from it, and of a configuration the same is
shown when its passwords are blanked.

* `Instance.hideEntry`, `Configuration.hideDocument` — entries and documents with blanked passwords.
* `Checker.check_hide`, `Instance.read_hide`, `Configuration.read_hide` — blanking before reading
  and after it.
* `Configuration.redactedValue_withoutPasswords` — what is shown of blanked passwords.
* `Configuration.SameButPasswords` — documents that differ in the texts of passwords only.
* `Configuration.read_sameButPasswords` — two such documents, side by side.
-/

namespace ClusterMonitor

open Schema (builtin)

/-! ## Blanked passwords -/

/-- The name of the secret option. -/
abbrev passwordKey : String := "password"

namespace Value

/-- A text blanked, and any other value as it is. -/
def hideText : Value → Value
  | .string _ => .string ""
  | v => v

/-- The value of a member of an entry, blanked if it is the text of a password. -/
def hideAt (key : String) (v : Value) : Value := if key = passwordKey then v.hideText else v

/-- The members of an entry with the password blanked. -/
def hideMembers (members : Dict Value) : Dict Value := Dict.mapEntries hideAt members

theorem hideText_eq (v : Value) : v.hideText = v.mapText fun _ => "" := by
  cases v <;> rfl

theorem hideAt_eq : hideAt = mapTextAt passwordKey fun _ => "" := by
  funext key v
  rw [hideAt, mapTextAt, hideText_eq]

theorem hideMembers_eq (members : Dict Value) :
    hideMembers members = mapTexts passwordKey (fun _ => "") members := by
  rw [hideMembers, mapTexts, hideAt_eq]

theorem isNull_hideAt (key : String) (v : Value) : (hideAt key v).isNull = v.isNull := by
  rw [hideAt_eq, isNull_mapTextAt]

theorem hideAt_of_ne {key : String} (h : key ≠ passwordKey) (v : Value) : hideAt key v = v :=
  if_neg h

end Value

open Value (hideText hideAt hideMembers)

/-! ## Checked options -/

namespace Checker

/-- Where an option takes any text, a check comes to the same before and after blanking: the same
reports, and the same options with the password blanked. -/
theorem check_hide {c : Checker} (h : ∀ o ∈ c.options, TakesAnyText passwordKey o)
    (supplied : Dict Value) :
    c.check (hideMembers supplied) =
      ((c.check supplied).1.map hideMembers, (c.check supplied).2) := by
  simp only [funext Value.hideMembers_eq]
  exact check_mapTexts _ h supplied

end Checker

/-! ## Instances -/

namespace Instance

/-- The instance with its password blanked. -/
def withoutPassword (i : Instance) : Instance :=
  { i with credential := i.credential.map fun c => { c with password := "" } }

/-- An entry of `instances` with its password blanked. -/
def hideEntry : Value → Value
  | .object members => .object (hideMembers members)
  | v => v

/-- The credential of blanked options is the credential with a blank password. -/
theorem credentialOf_hide (o : Options) :
    credentialOf (hideMembers o) =
      (credentialOf o).map (Option.map fun c => { c with password := "" }) := by
  have husername : Options.string? (hideMembers o) "username" = o.string? "username" := by
    rw [Value.hideMembers_eq, Options.string?_mapTexts_of_ne _ (by decide)]
  have hpassword : Options.string? (hideMembers o) "password" =
      (o.string? "password").map fun _ => "" := by
    rw [Value.hideMembers_eq, Options.string?_mapTexts_self]
  rw [credentialOf, credentialOf, husername, hpassword]
  cases o.string? "username" <;> cases o.string? "password" <;> rfl

/-- An instance made of blanked options is the instance without its password. -/
theorem ofOptions_hide (o : Options) (index : Nat) :
    ofOptions (hideMembers o) index =
      ((ofOptions o index).1.map withoutPassword, (ofOptions o index).2) := by
  have hcredential := credentialOf_hide o
  have hauth : authTypeOf (hideMembers o) = authTypeOf o := by
    rw [authTypeOf, authTypeOf, Value.hideMembers_eq, Options.string?_mapTexts_of_ne _ (by decide)]
  rw [Value.hideMembers_eq] at hcredential hauth ⊢
  simp (disch := decide) only [ofOptions, hcredential, hauth, Options.string?_mapTexts_of_ne,
    Options.bool?_mapTexts_of_ne, Options.float?_mapTexts_of_ne, Options.strings_mapTexts_of_ne,
    Value.get?_mapTexts_of_ne]
  cases o.string? "url" with
  | none => rfl
  | some raw =>
    -- the credential is the only part that the password goes into
    dsimp only
    cases readUrl raw with
    | error e => rfl
    | ok url =>
      cases credentialOf o with
      | error e => rfl
      | ok credential =>
        cases authTypeOf o <;> rfl

/-- Reading an entry with a blanked password gives the instance with a blanked password, or fails in
the same way, and the same reports. -/
theorem read_hide (index : Nat) (entry : Value) :
    read builtin index (hideEntry entry) =
      ((read builtin index entry).1.map withoutPassword, (read builtin index entry).2) := by
  cases entry with
  | object supplied =>
    have hcheck := Checker.check_hide (c := Checker.ofInstance builtin index)
      (Schema.takesAnyText_builtin (Or.inr rfl)) supplied
    rcases hresult : (Checker.ofInstance builtin index).check supplied with ⟨e | options, reports⟩
    · rw [hresult] at hcheck
      simp [read, hideEntry, hcheck, hresult, Except.map]
    · rw [hresult] at hcheck
      simp [read, hideEntry, hcheck, hresult, Except.map, ofOptions_hide]
  | _ => rfl

/-- The document form of an instance without its password is the blanked document form. -/
theorem toValue_withoutPassword (i : Instance) :
    i.withoutPassword.toValue = hideEntry i.toValue := by
  have hother : ∀ key, key ≠ passwordKey → hideAt key = id :=
    fun key hkey => funext (Value.hideAt_of_ne hkey)
  have hmembers : i.withoutPassword.members = hideMembers i.members := by
    simp only [members, hideMembers, Dict.mapEntries_append, Dict.mapEntries_part,
      Dict.mapEntries_cons, Dict.mapEntries_nil, hother "url" (by decide),
      hother "services" (by decide), hother "username" (by decide),
      hother "auth_type" (by decide), hother "tls_verify" (by decide),
      hother "timeout" (by decide), hother "tags" (by decide), hother "service" (by decide),
      hother "min_collection_interval" (by decide), hother "empty_default_hostname" (by decide),
      Option.map_id, id]
    cases hcredential : i.credential <;> simp [withoutPassword, hcredential, hideAt, hideText]
  rw [toValue_eq, toValue_eq, hmembers, Value.ofPairs, hideMembers, Dict.ofPairs_mapEntries]
  rfl

end Instance

/-! ## Documents -/

/-- The outcome with the password of a valid instance blanked. -/
def InstanceOutcome.withoutPassword (o : InstanceOutcome) : InstanceOutcome :=
  ⟨o.index, o.result.map Instance.withoutPassword⟩

namespace Configuration

/-- The configuration with all passwords blanked. -/
def withoutPasswords (c : Configuration) : Configuration :=
  { c with instances := c.instances.map InstanceOutcome.withoutPassword }

/-- A member of a document, with the passwords blanked if it is the list of entries. -/
def hideMember (key : String) (v : Value) : Value :=
  match v with
  | .array entries => if key = "instances" then .array (entries.map Instance.hideEntry) else v
  | v => v

/-- A document with all passwords blanked. -/
def hideDocument : Value → Value
  | .object members => .object (Dict.mapEntries hideMember members)
  | v => v

theorem hideMember_eq : hideMember = mapMember (List.map Instance.hideEntry) := rfl

theorem hideDocument_eq : hideDocument = mapDocument (List.map Instance.hideEntry) := rfl

/-- Members other than the list of entries are left alone. -/
theorem hideMember_of_ne {key : String} (h : key ≠ "instances") (v : Value) :
    hideMember key v = v := by
  rw [hideMember_eq, mapMember_of_ne _ h]

/-- Blanking commutes with reading an entry, and the reports are the same. -/
theorem readInstance_hide (index : Nat) (entry : Value) :
    readInstance builtin index (Instance.hideEntry entry) =
      ((readInstance builtin index entry).1.withoutPassword,
        (readInstance builtin index entry).2) := by
  rw [readInstance, readInstance, Instance.read_hide]
  rcases Instance.read builtin index entry with ⟨e | i, reports⟩ <;> rfl

/-- Blanking commutes with reading all entries, and the reports are the same. -/
theorem readInstances_hide (start : Nat) (entries : List Value) :
    readInstances builtin start (entries.map Instance.hideEntry) =
      ((readInstances builtin start entries).1.map InstanceOutcome.withoutPassword,
        (readInstances builtin start entries).2) := by
  induction entries generalizing start with
  | nil => rfl
  | cons entry rest ih => simp [readInstances, readInstance_hide, ih (start + 1)]

/-- Reading a document with blanked passwords gives the configuration with blanked passwords, or
fails in the same way. -/
theorem read_hide (document : Value) :
    read builtin (hideDocument document) = (read builtin document).map withoutPasswords := by
  rw [hideDocument_eq, read_mapDocument _ (by simp), read]
  rcases entriesOf document with fault | ⟨members, entries⟩
  · rfl
  · simp only [ofMembers, readInstances_hide]
    rfl

/-- Blanking does not change which outcomes are valid instances. -/
theorem valid?_withoutPassword (o : InstanceOutcome) :
    valid? o.withoutPassword = (valid? o).map fun p => (p.1, p.2.withoutPassword) := by
  obtain ⟨index, e | i⟩ := o <;> rfl

/-- The valid instances of a blanked configuration are the blanked ones. -/
theorem validInstances_withoutPasswords (c : Configuration) :
    c.withoutPasswords.validInstances =
      c.validInstances.map fun p => (p.1, p.2.withoutPassword) := by
  rw [validInstances, validInstances, withoutPasswords, List.filterMap_map, List.map_filterMap]
  congr 1
  funext o
  exact valid?_withoutPassword o

/-- Blanking commutes with the document form. -/
theorem toValue_withoutPasswords (c : Configuration) :
    c.withoutPasswords.toValue = hideDocument c.toValue := by
  have hvalues : (c.withoutPasswords.validInstances.map fun p => p.2.toValue) =
      (c.validInstances.map fun p => p.2.toValue).map Instance.hideEntry := by
    simp [validInstances_withoutPasswords, Instance.toValue_withoutPassword, Function.comp_def]
  have hmembers : c.withoutPasswords.members = Dict.mapEntries hideMember c.members := by
    have hinit : hideMember "init_config" = id := funext (hideMember_of_ne (by decide))
    have hlogs : hideMember "logs" = id := funext (hideMember_of_ne (by decide))
    simp only [members, hvalues, Dict.mapEntries_append, Dict.mapEntries_part,
      Dict.mapEntries_cons, Dict.mapEntries_nil, hinit, hlogs, Option.map_id, id]
    rfl
  rw [toValue_eq, toValue_eq, hmembers, Value.ofPairs, Dict.ofPairs_mapEntries]
  rfl

end Configuration

/-! ## What is shown -/

namespace Redactor

variable {secretKeys : List String}

/-- A password that is masked is masked in the same way when it is blank, as secret keys are masked
whole. -/
theorem redactMember_hideAt (h : passwordKey ∈ secretKeys) (key : String) (v : Value) :
    ({} : Redactor).redactMember secretKeys key (hideAt key v) =
      ({} : Redactor).redactMember secretKeys key v := by
  by_cases hkey : key = passwordKey
  · exact redactMember_congr _ _ rfl (Value.isNull_hideAt key v) (Or.inl (hkey ▸ h))
  · rw [Value.hideAt_of_ne hkey]

/-- A blanked entry is shown as the entry is. -/
theorem redactValue_hideEntry (h : passwordKey ∈ secretKeys) (v : Value) :
    ({} : Redactor).redactValue secretKeys (Instance.hideEntry v) =
      ({} : Redactor).redactValue secretKeys v := by
  cases v with
  | object members =>
    rw [Instance.hideEntry, redactValue, redactValue, redactMembers_eq, redactMembers_eq,
      hideMembers, Dict.mapEntries_mapEntries]
    simp only [redactMember_hideAt h]
  | _ => rfl

theorem redactMember_hideMember (h : passwordKey ∈ secretKeys) (key : String) (v : Value) :
    ({} : Redactor).redactMember secretKeys key (Configuration.hideMember key v) =
      ({} : Redactor).redactMember secretKeys key v := by
  by_cases hkey : key = "instances"
  · cases v with
    | array entries =>
      refine redactMember_congr _ _ rfl (by simp [Configuration.hideMember, hkey, Value.isNull])
        (Or.inr ?_)
      -- a list is redacted entry by entry
      simp only [Configuration.hideMember, if_pos hkey, redactValue, redactItems_eq, List.map_map]
      congr 1
      exact List.map_congr_left fun entry _ => redactValue_hideEntry h entry
    | _ => rfl
  · rw [Configuration.hideMember_of_ne hkey]

theorem redactValue_hideDocument (h : passwordKey ∈ secretKeys) (v : Value) :
    ({} : Redactor).redactValue secretKeys (Configuration.hideDocument v) =
      ({} : Redactor).redactValue secretKeys v := by
  cases v with
  | object members =>
    rw [Configuration.hideDocument, redactValue, redactValue, redactMembers_eq, redactMembers_eq,
      Dict.mapEntries_mapEntries]
    simp only [redactMember_hideMember h]
  | _ => rfl

end Redactor

namespace Configuration

/-- Of a configuration the same is shown when its passwords are blanked. -/
theorem redactedValue_withoutPasswords (c : Configuration) :
    c.withoutPasswords.redactedValue builtin = c.redactedValue builtin := by
  rw [redactedValue, redactedValue, toValue_withoutPasswords]
  exact Redactor.redactValue_hideDocument (by decide) c.toValue

end Configuration

/-! ## Two documents -/

/-- Two entries of `instances` that are the same but for the text of the password. -/
def Instance.SameButPassword (entry entry' : Value) : Prop :=
  entry = entry' ∨ ∃ members members', entry = .object members ∧ entry' = .object members' ∧
    List.Forall₂ (fun m m' => m = m' ∨
      ∃ text text', m = ("password", .string text) ∧ m' = ("password", .string text'))
      members members'

/-- Two entries that differ in the password only are the same when it is blanked. -/
theorem Instance.SameButPassword.hideEntry_eq {entry entry' : Value}
    (h : SameButPassword entry entry') : hideEntry entry = hideEntry entry' := by
  rcases h with rfl | ⟨members, members', rfl, rfl, hmembers⟩
  · rfl
  · have hhidden : hideMembers members = hideMembers members' := by
      induction hmembers with
      | nil => rfl
      | cons hm _ ih =>
        rcases hm with rfl | ⟨text, text', rfl, rfl⟩
        · simpa [hideMembers, Dict.mapEntries] using ih
        · simpa [hideMembers, Dict.mapEntries, hideAt, hideText] using ih
    rw [hideEntry, hideEntry, hhidden]

namespace Configuration

/-- Two documents that are the same but for the texts of passwords in the entries of
`instances`. -/
def SameButPasswords (document document' : Value) : Prop :=
  document = document' ∨ ∃ members members', document = .object members ∧
    document' = .object members' ∧
    List.Forall₂ (fun m m' => m = m' ∨
      ∃ entries entries', m = ("instances", .array entries) ∧ m' = ("instances", .array entries') ∧
        List.Forall₂ Instance.SameButPassword entries entries')
      members members'

/-- Two documents that differ in passwords only are the same when these are blanked. -/
theorem SameButPasswords.hideDocument_eq {document document' : Value}
    (h : SameButPasswords document document') : hideDocument document = hideDocument document' := by
  rcases h with rfl | ⟨members, members', rfl, rfl, hmembers⟩
  · rfl
  · have hhidden : Dict.mapEntries hideMember members = Dict.mapEntries hideMember members' := by
      induction hmembers with
      | nil => rfl
      | cons hm _ ih =>
        rcases hm with rfl | ⟨entries, entries', rfl, rfl, hentries⟩
        · simpa [Dict.mapEntries] using ih
        · have hlists : entries.map Instance.hideEntry = entries'.map Instance.hideEntry := by
            induction hentries with
            | nil => rfl
            | cons hentry _ ih => rw [List.map_cons, List.map_cons, hentry.hideEntry_eq, ih]
          simpa [Dict.mapEntries, hideMember, hlists] using ih
    rw [hideDocument, hideDocument, hhidden]

/-- The same outcome but for the password: the same error, or an instance that is otherwise the
same. -/
def SameOutcome (o o' : InstanceOutcome) : Prop :=
  o.index = o'.index ∧
    ((∃ e, o.result = .error e ∧ o'.result = .error e) ∨
      ∃ i i', o.result = .ok i ∧ o'.result = .ok i' ∧ i.withoutPassword = i'.withoutPassword)

/-- Outcomes that are the same without passwords are the same but for passwords. -/
theorem sameOutcome_of_withoutPassword {o o' : InstanceOutcome}
    (h : o.withoutPassword = o'.withoutPassword) : SameOutcome o o' := by
  obtain ⟨hindex, hresult⟩ := InstanceOutcome.mk.inj h
  exact ⟨hindex, Decode.results_of_map_eq hresult⟩

/-- The texts of passwords have no influence on anything that is shown of a document: not on the
error of the document as a whole, nor on what becomes of each entry, nor on the reports, nor on the
document form as it may be shown. -/
theorem read_sameButPasswords (document document' : Value)
    (h : SameButPasswords document document') :
    (∃ e, read builtin document = .error e ∧ read builtin document' = .error e) ∨
      ∃ c c', read builtin document = .ok c ∧ read builtin document' = .ok c' ∧
        c.init = c'.init ∧ c.logs = c'.logs ∧ c.diagnostics = c'.diagnostics ∧
        List.Forall₂ SameOutcome c.instances c'.instances ∧
        c.redactedValue builtin = c'.redactedValue builtin := by
  have hread : (read builtin document).map withoutPasswords =
      (read builtin document').map withoutPasswords := by
    rw [← read_hide, ← read_hide, h.hideDocument_eq]
  rcases Decode.results_of_map_eq hread with herror | ⟨c, c', hc, hc', hsame⟩
  · exact Or.inl herror
  · obtain ⟨hinit, hinstances, hlogs, hreports⟩ := Configuration.mk.inj hsame
    have houtcomes : List.Forall₂ (fun o o' => o.withoutPassword = o'.withoutPassword)
        c.instances c'.instances := by
      have hforms := hinstances
      rw [← List.forall₂_eq_eq_eq] at hforms
      simpa using hforms
    refine Or.inr ⟨c, c', hc, hc', hinit, hlogs, hreports,
      houtcomes.imp fun _ _ => sameOutcome_of_withoutPassword, ?_⟩
    rw [← redactedValue_withoutPasswords c, hsame, redactedValue_withoutPasswords]

/-- Two documents with different passwords: each has one valid instance, which has its own password,
and one without a URL. -/
theorem read_sameButPasswords_two_texts :
    let entries (password : String) :=
      [Value.object [("password", .string password), ("url", .string "http://[::1]:8080"),
        ("username", .string "admin")],
      .object [("password", .string password)]]
    let document (password : String) := Value.object [("instances", .array (entries password))]
    ∃ c c', SameButPasswords (document "one") (document "two") ∧
      read builtin (document "one") = .ok c ∧ read builtin (document "two") = .ok c' ∧
      c.validInstances.map (fun p => p.2.credential.map (·.password)) = [some "one"] ∧
      c'.validInstances.map (fun p => p.2.credential.map (·.password)) = [some "two"] ∧
      c.diagnostics = c'.diagnostics ∧ c.redactedValue builtin = c'.redactedValue builtin := by
  intro entries document
  have hentries : List.Forall₂ Instance.SameButPassword (entries "one") (entries "two") := by
    refine .cons (Or.inr ⟨_, _, rfl, rfl, ?_⟩) (.cons (Or.inr ⟨_, _, rfl, rfl, ?_⟩) .nil)
    · exact .cons (Or.inr ⟨_, _, rfl, rfl⟩) (.cons (Or.inl rfl) (.cons (Or.inl rfl) .nil))
    · exact .cons (Or.inr ⟨_, _, rfl, rfl⟩) .nil
  have hsame : SameButPasswords (document "one") (document "two") :=
    Or.inr ⟨_, _, rfl, rfl, .cons (Or.inr ⟨_, _, rfl, rfl, hentries⟩) .nil⟩
  have h : read builtin (document "one") = .ok _ := rfl
  have h' : read builtin (document "two") = .ok _ := rfl
  rcases read_sameButPasswords _ _ hsame with
    ⟨e, herror, -⟩ | ⟨c, c', hc, hc', -, -, hreports, -, hshown⟩
  · rw [h] at herror
    cases herror
  · refine ⟨c, c', hsame, hc, hc', ?_, ?_, hreports, hshown⟩
    · cases h.symm.trans hc
      rfl
    · cases h'.symm.trans hc'
      rfl

end Configuration

end ClusterMonitor

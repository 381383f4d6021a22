import ClusterMonitor.Proofs.Config.Entries
import ClusterMonitor.Proofs.Options.SharedSection
import ClusterMonitor.Proofs.Schema.Builtin

/-!
# Entries with other URLs

What the text of a URL has an influence on when an entry is read. It is read as a URL, or the entry
fails without regard to it.

* `Instance.setUrl`, `Configuration.setUrl` — an entry and a document with another text as the URL.
* `Instance.GoesByUrl` and `Instance.read_setUrl` — what becomes of an entry, for all texts.
-/

namespace ClusterMonitor

open Schema (builtin)
open Value (mapTexts)

/-! ## Failures for other reasons -/

/-- The failure, if it is one, is not about the URL. -/
def SparesUrl {α : Type} (r : Except ConfigError α) : Prop :=
  ∀ reason, r ≠ .error (.invalidValue "url" reason)

/-- The check of the options never fails for a URL. -/
theorem sparesUrl_check {index : Nat} {supplied : Dict Value} :
    SparesUrl ((Checker.ofInstance builtin index).check supplied).1 := by
  intro reason h
  obtain ⟨o, ho, hoffends⟩ := ((Checker.check_fst_eq_error_iff _).mp h).exists_mem
  have hallows : ∀ shown v, (Schema.textLike shown).checkAllowed v = .ok () := by
    intro shown v
    cases v <;> rfl
  generalize hname : ConfigError.invalidValue "url" reason = e at hoffends
  cases hoffends with
  | missing => cases hname
  | wrongType => cases hname
  | notAllowed _ _ _ _ hallowed =>
    injection hname with hname
    obtain ⟨shown, hvalue⟩ := Schema.exists_textLike (Or.inl rfl) o ho hname.symm
    rw [hvalue, hallows] at hallowed
    cases hallowed

theorem sparesUrl_typeMismatch {α : Type} (option expected actual : String) :
    SparesUrl (.error (.typeMismatch option expected actual) : Except ConfigError α) := nofun

/-- Making the credential never fails for one. -/
theorem sparesUrl_credentialOf (o : Options) : SparesUrl (Instance.credentialOf o) := by
  unfold Instance.credentialOf
  split <;> exact nofun

theorem sparesUrl_authTypeOf (o : Options) : SparesUrl (Instance.authTypeOf o) := by
  unfold Instance.authTypeOf AuthType.ofText
  split
  · split
    · exact nofun
    · split
      · exact nofun
      · intro reason h
        injection h with h
        injection h with h
        exact absurd h (by decide)
  · exact nofun

theorem SparesUrl.map {α β : Type} {r : Except ConfigError α} (h : SparesUrl r) (f : α → β) :
    SparesUrl (r.map f) := by
  cases r with
  | error e =>
    rintro reason ⟨⟩
    exact h reason rfl
  | ok a => exact nofun

/-- The failure is not about the URL of whatever else it is the failure of. -/
theorem SparesUrl.of_eq_error {α β : Type} {r : Except ConfigError α} (h : SparesUrl r)
    {e : ConfigError} (hr : r = .error e) : SparesUrl (.error e : Except ConfigError β) := by
  rintro reason ⟨⟩
  exact h reason hr

namespace Instance

/-- An entry with another text as its URL, if it has one. -/
def setUrl (text : String) : Value → Value
  | .object members => .object (mapTexts "url" (fun _ => text) members)
  | v => v

/-- What becomes of an entry for each text of its URL. -/
inductive GoesByUrl (r : String → Except ConfigError Instance × List Diagnostic) : Prop where
  /-- The text is not read as a URL. -/
  | unread (result : Except ConfigError Instance × List Diagnostic) (spares : SparesUrl result.1)
    (result_eq : ∀ text, r text = result)
  /-- The text is read as a URL, and the instance is made of what is read. -/
  | read (made : Except ConfigError (Url → Instance)) (reports later : List Diagnostic)
    (spares : SparesUrl made) (made_eq : ∀ f, made = .ok f → ∀ u v, f v = { f u with url := v })
    (result_eq : ∀ text, r text =
      match readUrl text with
      | .error e => (.error e, reports)
      | .ok url => (made.map fun f => f url, reports ++ later))

/-- Making an instance goes by the URL: it fails before the URL is read, for the URL, or with any
URL in the same way. -/
theorem goesByUrl_ofOptions (o : Options) (index : Nat) (reports : List Diagnostic) :
    GoesByUrl fun text =>
      ((ofOptions (mapTexts "url" (fun _ => text) o) index).1,
        reports ++ (ofOptions (mapTexts "url" (fun _ => text) o) index).2) := by
  have hcredential : ∀ text, credentialOf (mapTexts "url" (fun _ => text) o) = credentialOf o := by
    intro text
    simp (disch := decide) only [credentialOf, Options.string?_mapTexts_of_ne]
  have hauth : ∀ text, authTypeOf (mapTexts "url" (fun _ => text) o) = authTypeOf o := by
    intro text
    simp (disch := decide) only [authTypeOf, Options.string?_mapTexts_of_ne]
  simp (disch := decide) only [ofOptions, hcredential, hauth, Options.string?_mapTexts_self,
    Options.string?_mapTexts_of_ne, Options.bool?_mapTexts_of_ne, Options.float?_mapTexts_of_ne,
    Options.strings_mapTexts_of_ne, Value.get?_mapTexts_of_ne]
  cases o.string? "url" with
  | none => exact .unread (.error (.missingRequiredOption "url"), reports ++ []) nofun fun _ => rfl
  | some raw =>
    dsimp only [Option.map_some]
    cases hhalf : credentialOf o with
    | error e =>
      refine .read (.error e) (reports ++ []) [] ((sparesUrl_credentialOf o).of_eq_error hhalf) nofun
        fun text => ?_
      cases readUrl text <;> simp [Except.map]
    | ok credential =>
      -- what is made of the URL, with all that the other options give
      let selection := ServiceSelection.read index (Dict.get? o "services")
      let make (authType : AuthType) (url : Url) : Instance := {
        url, services := selection.1, credential, authType
        tlsVerify := (o.bool? "tls_verify").getD true
        timeout := o.float? "timeout"
        tags := o.strings "tags"
        service := o.string? "service"
        minCollectionInterval := (o.float? "min_collection_interval").getD defaultInterval
        emptyDefaultHostname := (o.bool? "empty_default_hostname").getD false }
      refine .read ((authTypeOf o).map make) reports selection.2 ((sparesUrl_authTypeOf o).map make)
        (fun f hf u v => ?_) fun text => ?_
      · obtain ⟨authType, -, rfl⟩ := Decode.map_eq_ok_iff.mp hf
        rfl
      · cases readUrl text with
        | error e => simp
        | ok url => cases authTypeOf o <;> rfl

/-- An entry is read by the text of its URL. -/
theorem read_setUrl (index : Nat) (entry : Value) :
    GoesByUrl fun text => read builtin index (setUrl text entry) := by
  cases entry with
  | object supplied =>
    have hcheck := fun text => Checker.check_mapTexts (c := Checker.ofInstance builtin index)
      (fun _ => text) (Schema.takesAnyText_builtin (Or.inl rfl)) supplied
    rcases hresult : (Checker.ofInstance builtin index).check supplied with ⟨e | options, reports⟩
    · have hspares : SparesUrl (.error e : Except ConfigError Instance) :=
        sparesUrl_check.of_eq_error (congrArg Prod.fst hresult)
      simp only [hresult] at hcheck
      simp only [setUrl, read, hcheck, Except.map]
      exact .unread (.error e, reports) hspares fun _ => rfl
    · simp only [hresult] at hcheck
      simp only [setUrl, read, hcheck, Except.map]
      exact goesByUrl_ofOptions options index reports
  | _ => exact .unread (_, []) (sparesUrl_typeMismatch _ _ _) fun _ => rfl

end Instance

/-! ## Documents -/

namespace Configuration

/-- A document with another text as the URL of an entry, if there is such an entry with a URL. -/
def setUrl (index : Nat) (text : String) : Value → Value :=
  mapDocument fun entries => entries.modify index (Instance.setUrl text)

end Configuration

end ClusterMonitor

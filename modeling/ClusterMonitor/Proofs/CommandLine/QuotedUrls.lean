import ClusterMonitor.Proofs.Config.JsonFiles
import ClusterMonitor.Proofs.Config.UrlTexts
import ClusterMonitor.Proofs.Redaction.UrlPasswords

/-!
# URLs that a report quotes

A report on a file hides the password in the URL of an entry wherever it shows what was read of the
entry. It does not where an error quotes the text of the URL: then the line of the entry has the
password. Two files that differ in such a password get the same report if and only if no error
quotes the URL.

* `UrlFault.message_cases` — what is said of a URL starts with its text, or is about the scheme.
* `Instance.sameRead_of_not_quotes`, `Instance.error_of_quotes` — an entry with two passwords.
* `Action.QuotesUrl` — an error of the configuration in a file quotes the URL of an entry.
* `Action.validate_ne_of_quotesUrl`, `Action.validate_eq_of_not_quotesUrl` — the reports on two
  files.
* `Action.validate_eq_iff_not_quotesUrl` — both together.
-/

namespace ClusterMonitor

open Schema (builtin)

/-- The wording of a fault starts with the text that has it, unless it is about the scheme. -/
theorem UrlFault.message_cases (fault : UrlFault) :
    (∃ name, fault = .foreignScheme name) ∨
      ∃ reason, ∀ raw, fault.message raw = raw ++ ": " ++ reason := by
  have hquoted : ∀ reason raw : String,
      toString raw ++ (": " ++ reason) = raw ++ ": " ++ reason := fun reason raw =>
    (String.append_assoc ..).symm
  cases fault with
  | relative => exact Or.inr ⟨_, hquoted "relative URL without a base"⟩
  | emptyHost => exact Or.inr ⟨_, hquoted "empty host"⟩
  | invalidDomain => exact Or.inr ⟨_, hquoted "invalid international domain name"⟩
  | invalidDomainCharacter => exact Or.inr ⟨_, hquoted "invalid domain character"⟩
  | invalidIpv4 => exact Or.inr ⟨_, hquoted "invalid IPv4 address"⟩
  | invalidIpv6 => exact Or.inr ⟨_, hquoted "invalid IPv6 address"⟩
  | invalidPort => exact Or.inr ⟨_, hquoted "invalid port number"⟩
  | foreignScheme name => exact Or.inl ⟨name, rfl⟩

/-! ## URLs with different passwords -/

namespace Url.LoginText

variable (l : LoginText)

/-- Letters and digits are refused as a password, or accepted and then hidden. -/
theorem readUrl_cases :
    (∀ password, IsWord password → ∃ fault, ofText? (l.text password) = .error fault) ∨
    ∀ p q, IsWord p → IsWord q → ∃ u v, Instance.readUrl (l.text p) = .ok u ∧
      Instance.readUrl (l.text q) = .ok v ∧ redact u.text = redact v.text := by
  rcases l.ofText?_cases with hrefused | ⟨u, more, huser, hread⟩
  · exact Or.inl hrefused
  · refine Or.inr fun p q hp hq => ⟨_, _, by rw [Instance.readUrl, hread p hp],
      by rw [Instance.readUrl, hread q hq], ?_⟩
    have hne : ∀ password, IsWord password → escape userEscapes (password.toList ++ more) ≠ "" :=
      fun password h => escape_ne_empty _ (by simpa using fun hnil => absurd hnil h.1)
    exact redact_withPassword_eq (hread p hp) huser (hne p hp) (hne q hq)
      (isPlain_of_mem_escape _) (isPlain_of_mem_escape _)

end Url.LoginText

/-! ## Entries with different passwords -/

namespace Instance

open Url (LoginText)

/-- The entry is refused for its URL, and the error quotes the text of the URL. -/
def Quotes (raw : String) (r : Except ConfigError Instance) : Prop :=
  ∃ reason, r = .error (.invalidValue "url" (raw ++ ": " ++ reason))

/-- The readings are the same, or those of accepted instances that look the same redacted. -/
def SameRead (r r' : Except ConfigError Instance × List Diagnostic) : Prop :=
  r = r' ∨ ∃ i j reports, r = (.ok i, reports) ∧ r' = (.ok j, reports) ∧ i.SameShown j

variable {l : LoginText} {p q : String}

/-- Where the URL is refused without a quotation, all passwords are refused alike. -/
theorem readUrl_eq_of_not_quotes (hp : IsWord p) {fault : UrlFault}
    (h : Url.ofText? (l.text p) = .error fault)
    (hquotes : ∀ reason, fault.message (l.text p) ≠ l.text p ++ ": " ++ reason) :
    readUrl (l.text p) = .error (.invalidValue "url"
      (UrlFault.message "" (.foreignScheme l.schemeName))) := by
  rcases fault.message_cases with ⟨name, rfl⟩ | ⟨reason, hreason⟩
  · obtain rfl := l.eq_schemeName_of_foreignScheme hp h
    rw [readUrl, h]
    rfl
  · exact absurd (hreason _) (hquotes reason)

/-- Where neither error quotes the URL, two passwords are read alike. -/
theorem sameRead_of_not_quotes (hp : IsWord p) (hq : IsWord q) {index : Nat} {entry : Value}
    (hquotes : ¬ Quotes (l.text p) (read builtin index (setUrl (l.text p) entry)).1)
    (hquotes' : ¬ Quotes (l.text q) (read builtin index (setUrl (l.text q) entry)).1) :
    SameRead (read builtin index (setUrl (l.text p) entry))
      (read builtin index (setUrl (l.text q) entry)) := by
  cases read_setUrl index entry with
  | unread result _ hresult => exact Or.inl ((hresult _).trans (hresult _).symm)
  | read made reports later _ hmade hresult =>
    rcases l.readUrl_cases with hrefused | haccepted
    · -- what is left is the scheme, of which the same is said for both passwords
      have hread : ∀ {password}, IsWord password →
          ¬ Quotes (l.text password) (read builtin index (setUrl (l.text password) entry)).1 →
          readUrl (l.text password) = .error (.invalidValue "url"
            (UrlFault.message "" (.foreignScheme l.schemeName))) := by
        intro password hpassword hquotes
        obtain ⟨fault, hfault⟩ := hrefused password hpassword
        refine readUrl_eq_of_not_quotes hpassword hfault fun reason hreason => hquotes ⟨reason, ?_⟩
        rw [hresult, readUrl, hfault, ← hreason]
      exact Or.inl (by rw [hresult, hresult, hread hp hquotes, hread hq hquotes'])
    · obtain ⟨u, v, hu, hv, hshown⟩ := haccepted p q hp hq
      rw [hresult, hresult, hu, hv]
      cases made with
      | error e => exact Or.inl rfl
      | ok f =>
        have hurl : (f u).url = u := congrArg Instance.url (hmade f rfl u u)
        exact Or.inr ⟨f u, f v, _, rfl, rfl, v, hmade f rfl u v, by rw [hurl, hshown]⟩

/-- Where the error for one password quotes the URL, there is an error for every other, which quotes
the URL as well or refuses the scheme. -/
theorem error_of_quotes (hp : IsWord p) (hq : IsWord q) {index : Nat} {entry : Value}
    (hquotes : Quotes (l.text p) (read builtin index (setUrl (l.text p) entry)).1) :
    ∃ fault : UrlFault, (read builtin index (setUrl (l.text q) entry)).1 =
      .error (.invalidValue "url" (fault.message (l.text q))) := by
  obtain ⟨reason, hreason⟩ := hquotes
  cases read_setUrl index entry with
  | unread result hspares hresult =>
    rw [hresult] at hreason
    exact absurd hreason (hspares _)
  | read made reports later hspares hmade hresult =>
    rcases l.readUrl_cases with hrefused | haccepted
    · obtain ⟨fault, hfault⟩ := hrefused q hq
      exact ⟨fault, by rw [hresult, readUrl, hfault]⟩
    · obtain ⟨u, v, hu, -, -⟩ := haccepted p q hp hq
      rw [hresult, hu] at hreason
      exact absurd hreason (hspares.map (fun f => f u) _)

end Instance

/-- Every outcome is shown like itself. -/
theorem InstanceOutcome.sameShown_refl (o : InstanceOutcome) : o.SameShown o := by
  obtain ⟨index, e | i⟩ := o
  · exact ⟨rfl, Or.inl ⟨e, rfl, rfl⟩⟩
  · exact ⟨rfl, Or.inr ⟨i, i, rfl, rfl, i.url, rfl, rfl⟩⟩

/-! ## Documents with different passwords -/

namespace Configuration

/-- The outcomes are those of the entries, each under its index. -/
theorem mem_readInstances_iff {s : Schema} {entries : List Value} {index : Nat}
    {r : Except ConfigError Instance} :
    ⟨index, r⟩ ∈ (readInstances s 0 entries).1 ↔
      ∃ entry, entries[index]? = some entry ∧ (Instance.read s index entry).1 = r := by
  rw [readInstances_fst]
  constructor
  · intro h
    obtain ⟨entry, hentry, hresult⟩ := entry_of_mem_mapIdx h
    exact ⟨entry, hentry, hresult.symm⟩
  · rintro ⟨entry, hentry, rfl⟩
    obtain ⟨hlt, rfl⟩ := List.getElem?_eq_some_iff.mp hentry
    exact List.mem_mapIdx.mpr ⟨index, hlt, rfl⟩

/-- Entries that are read alike have outcomes that are shown alike, and the same reports. -/
theorem sameShown_readInstance {s : Schema} {index : Nat} {entry entry' : Value}
    (h : Instance.SameRead (Instance.read s index entry) (Instance.read s index entry')) :
    (readInstance s index entry).1.SameShown (readInstance s index entry').1 ∧
      (readInstance s index entry).2 = (readInstance s index entry').2 := by
  rcases h with h | ⟨i, j, reports, hi, hj, hshown⟩
  · rw [readInstance, readInstance, h]
    exact ⟨InstanceOutcome.sameShown_refl _, rfl⟩
  · rw [readInstance, readInstance, hi, hj]
    exact ⟨⟨rfl, Or.inr ⟨i, j, rfl, rfl, hshown⟩⟩, rfl⟩

/-- Where one entry is changed, and looks the same, the configuration does. -/
theorem sameShown_modify {s : Schema} {members : Dict Value} {entries : List Value} {index : Nat}
    {f g : Value → Value}
    (h : ∀ entry, entries[index]? = some entry →
      Instance.SameRead (Instance.read s index (f entry)) (Instance.read s index (g entry))) :
    (ofMembers s members (entries.modify index f)).SameShown
      (ofMembers s members (entries.modify index g)) := by
  have hrefl : ∀ ds : List Diagnostic, List.Forall₂ Diagnostic.SameShown ds ds := fun ds =>
    List.forall₂_same.mpr fun d _ => ⟨rfl, rfl⟩
  have hrefl' : ∀ os : List InstanceOutcome, List.Forall₂ InstanceOutcome.SameShown os os :=
    fun os => List.forall₂_same.mpr fun o _ => InstanceOutcome.sameShown_refl o
  cases hentry : entries[index]? with
  | none =>
    have hsame : ∀ f : Value → Value, entries.modify index f = entries := fun f =>
      List.modify_eq_self (List.getElem?_eq_none_iff.mp hentry)
    rw [hsame, hsame]
    exact ⟨rfl, rfl, hrefl' _, hrefl _⟩
  | some entry =>
    obtain ⟨before, after, hread⟩ := readInstances_modify (s := s) hentry
    obtain ⟨houtcome, hreports⟩ := sameShown_readInstance (h entry hentry)
    refine ⟨rfl, rfl, ?_, ?_⟩
    · simp only [ofMembers, hread]
      exact List.rel_append (hrefl' before.1) (.cons houtcome (hrefl' after.1))
    · simp only [ofMembers, hread, hreports]
      exact hrefl _

end Configuration

/-! ## Reports -/

namespace CommandLine.Action

open ClusterMonitor.Configuration (setUrl)
open Url (LoginText)

/-- The configuration that is loaded has an error for an entry that quotes the text of its URL. -/
def QuotesUrl (s : Surroundings) (file : String) (index : Nat) (raw : String) : Prop :=
  ∃ c, load s (.ofFile file) = .ok c ∧
    ∃ reason, ⟨index, .error (.invalidValue "url" (raw ++ ": " ++ reason))⟩ ∈ c.instances

/-- A file with a URL set is loaded with the environment over it, and the URL set in the entry. -/
theorem load_setUrl {s : Surroundings} {file : String} {index : Nat} {text : String}
    {document : Value} (h : Source.readFile s file = .ok (setUrl index text document)) :
    load s (.ofFile file) =
      match Configuration.entriesOf (Engine.overridden s.environment document) with
      | .error fault => .error (.ofConfig fault.error)
      | .ok (members, entries) =>
        .ok (.ofMembers builtin members (entries.modify index (Instance.setUrl text))) := by
  have hempty : ∀ entries : List Value, entries.modify index (Instance.setUrl text) = [] ↔
      entries = [] := by
    intro entries
    rw [← List.length_eq_zero_iff, List.length_modify, List.length_eq_zero_iff]
  rw [load, Engine.build_mapDocument _ h, Configuration.read_mapDocument _ hempty]
  rcases Configuration.entriesOf (Engine.overridden s.environment document) with fault | ⟨_, _⟩ <;>
    rfl

theorem ofLines_append (xs ys : List String) : ofLines (xs ++ ys) = ofLines xs ++ ofLines ys := by
  simp [ofLines]

theorem ofLines_cons (x : String) (xs : List String) :
    ofLines (x :: xs) = x ++ "\n" ++ ofLines xs := by
  simp [ofLines]

/-- The line of an entry that is refused for its URL ends with what is said of the URL. -/
theorem exists_outcomeLine_eq (style : Style) (index : Nat) :
    ∃ head : String, ∀ reason, outcomeLine style ⟨index, .error (.invalidValue "url" reason)⟩ =
      head ++ reason := by
  refine ⟨"  instances[" ++ toString index ++ "] " ++ style.boldRed failedWord ++ " " ++
    "Invalid value for option `" ++ "url" ++ "`: ", fun reason => ?_⟩
  change "  instances[" ++ toString index ++ "] " ++ (style.boldRed failedWord ++ " " ++
    ("Invalid value for option `" ++ "url" ++ "`: " ++ reason)) = _
  simp only [String.append_assoc]

/-- What is said of a URL with a password is not what is said of it with another one. -/
theorem text_append_ne_message_append {l : LoginText} {p q : String} (hp : IsWord p) (hq : IsWord q)
    (hpq : p ≠ q) (fault : UrlFault) (xs ys : List Char) :
    (l.text p).toList ++ xs ≠ (fault.message (l.text q)).toList ++ ys := by
  rcases fault.message_cases with ⟨name, rfl⟩ | ⟨reason, hreason⟩
  · -- no scheme has a blank, and the word for schemes is not followed by a colon
    have hmessage : (UrlFault.message (l.text q) (.foreignScheme name)).toList =
        "scheme must be http or https, got ".toList ++ name.toList := String.toList_append
    have hwords : "scheme must be http or https, got ".toList =
        "scheme".toList ++ ' ' :: "must be http or https, got ".toList := by decide
    have hblank : ' ' ∉ l.scheme.toList := fun h => absurd (l.scheme_mem ' ' h) (by decide)
    rw [hmessage, hwords, LoginText.toList_text]
    simp only [List.append_assoc, List.cons_append]
    exact Regex.append_cons_ne_append_cons (by decide) hblank (by decide)
  · -- both start with the URL, in which the passwords end at the first sign
    intro h
    have hsign : ∀ password, IsWord password → '@' ∉ password.toList :=
      fun password hpassword hmem => absurd (hpassword.2 '@' hmem) (by decide)
    rw [hreason] at h
    simp only [String.toList_append, LoginText.toList_text, LoginText.login, List.append_assoc,
      List.cons_append, List.append_cancel_left_eq, List.cons.injEq, true_and] at h
    have hsame := (Regex.append_cons_inj_of_notMem (hsign p hp) (hsign q hq) h).1
    exact hpq (String.toList_inj.mp hsame)

/-- A report starts with how much there is to report on, and goes on with the outcomes. -/
theorem exists_report_eq_cons (style : Style) (file : String) (dump : Bool) (schema : Schema) :
    ∃ loaded : Nat → Nat → String, ∀ c : Configuration, ∃ rest,
      report style file dump schema c = loaded c.instances.length c.logs.length ::
        (c.instances.map (outcomeLine style) ++ rest) := by
  refine ⟨fun instances logs =>
    let counts := s!"({instances} instances, {logs} log sources)"
    style.bold "Loaded" ++ s!" {file} {counts}", fun c =>
      ⟨diagnosticLines style c.diagnostics ++
        ([summaryLine c] ++ if dump then dumpLines c schema else []), ?_⟩⟩
  simp only [report, List.append_assoc, List.cons_append, List.nil_append]

/-- Reports on outcomes of which one differs are the same up to its line. -/
theorem exists_report_eq {c d : Configuration} (hlogs : c.logs = d.logs)
    {before after : List InstanceOutcome} {o o' : InstanceOutcome}
    (hc : c.instances = before ++ o :: after) (hd : d.instances = before ++ o' :: after)
    (style : Style) (file : String) (dump : Bool) (schema : Schema) :
    ∃ head more more', ofLines (report style file dump schema c) =
        head ++ (outcomeLine style o ++ more) ∧
      ofLines (report style file dump schema d) = head ++ (outcomeLine style o' ++ more') := by
  obtain ⟨loads, hreport⟩ := exists_report_eq_cons style file dump schema
  obtain ⟨rest, hrest⟩ := hreport c
  obtain ⟨rest', hrest'⟩ := hreport d
  have hcount : d.instances.length = c.instances.length := by simp [hc, hd]
  rw [hcount, ← hlogs] at hrest'
  have hsplit : ∀ (loaded : String) (o : InstanceOutcome) (rest : List String),
      ofLines (loaded :: ((before ++ o :: after).map (outcomeLine style) ++ rest)) =
        ofLines (loaded :: before.map (outcomeLine style)) ++
          (outcomeLine style o ++ ("\n" ++ ofLines (after.map (outcomeLine style) ++ rest))) := by
    intro loaded o rest
    simp only [List.map_append, List.map_cons, List.append_assoc, List.cons_append, ofLines_append,
      ofLines_cons, String.append_assoc]
  generalize c.instances.length = instances at hrest hrest'
  rw [hc] at hrest
  rw [hd] at hrest'
  exact ⟨_, _, _, by rw [hrest, hsplit], by rw [hrest', hsplit]⟩

/-- Where an error quotes the URL, another password in it makes a difference to what is printed. -/
theorem validate_ne_of_quotesUrl {l : LoginText} {p q : String} (hp : IsWord p) (hq : IsWord q)
    (hpq : p ≠ q) {s t : Surroundings} {file : String} {index : Nat} {document : Value}
    (henvironment : s.environment = t.environment)
    (hs : Source.readFile s file = .ok (setUrl index (l.text p) document))
    (ht : Source.readFile t file = .ok (setUrl index (l.text q) document))
    (h : QuotesUrl s file index (l.text p)) (style : Style) (dump : Bool) :
    validate s style file dump ≠ validate t style file dump := by
  obtain ⟨c, hc, reason, hmem⟩ := h
  have hd := load_setUrl ht
  have hc' := hc
  rw [load_setUrl hs] at hc'
  rw [← henvironment] at hd
  rcases hentries : Configuration.entriesOf (Engine.overridden s.environment document) with
    fault | ⟨members, entries⟩
  · simp only [hentries] at hc'
    cases hc'
  · simp only [hentries] at hc' hd
    obtain rfl := Except.ok.inj hc'
    obtain ⟨_, hplace, herror⟩ := Configuration.mem_readInstances_iff.mp hmem
    rw [List.getElem?_modify_eq] at hplace
    obtain ⟨entry, hentry, rfl⟩ := Option.map_eq_some_iff.mp hplace
    obtain ⟨fault, hfault⟩ := Instance.error_of_quotes hp hq ⟨reason, herror⟩
    obtain ⟨before, after, hread⟩ := Configuration.readInstances_modify (s := builtin) hentry
    have hinstances : ∀ {text e},
        (Instance.read builtin index (Instance.setUrl text entry)).1 = .error e →
        (Configuration.ofMembers builtin members
          (entries.modify index (Instance.setUrl text))).instances =
        before.1 ++ ⟨index, .error e⟩ :: after.1 := by
      intro text e he
      rw [← he, ← Configuration.readInstance_fst, Configuration.ofMembers, hread]
    obtain ⟨head, more, more', hprinted, hprinted'⟩ := exists_report_eq (by rfl)
      (hinstances herror) (hinstances hfault) style file dump (Engine.ofFile file).schema
    -- up to what is said of the URL, the reports are the same
    obtain ⟨opening, hline⟩ := exists_outcomeLine_eq style index
    rw [validate_of_load hc, validate_of_load hd]
    intro hsame
    injection hsame with hsame
    injection hsame with htext
    rw [hprinted, hprinted', hline, hline, ← String.toList_inj] at htext
    simp only [String.toList_append, List.append_assoc, List.append_cancel_left_eq] at htext
    exact text_append_ne_message_append hp hq hpq fault _ _ htext

/-- Where no error quotes the URL, the password in it makes no difference. -/
theorem validate_eq_of_not_quotesUrl {l : LoginText} {p q : String} (hp : IsWord p) (hq : IsWord q)
    {s t : Surroundings} {file : String} {index : Nat} {document : Value}
    (henvironment : s.environment = t.environment)
    (hs : Source.readFile s file = .ok (setUrl index (l.text p) document))
    (ht : Source.readFile t file = .ok (setUrl index (l.text q) document))
    (hquotes : ¬ QuotesUrl s file index (l.text p)) (hquotes' : ¬ QuotesUrl t file index (l.text q))
    (style : Style) (dump : Bool) :
    validate s style file dump = validate t style file dump := by
  have hc := load_setUrl hs
  have hd := load_setUrl ht
  rw [← henvironment] at hd
  rcases hentries : Configuration.entriesOf (Engine.overridden s.environment document) with
    fault | ⟨members, entries⟩
  · simp only [hentries] at hc hd
    simp only [validate, hc, hd]
  · simp only [hentries] at hc hd
    have hspares : ∀ {s : Surroundings} {text : String},
        load s (.ofFile file) = .ok (.ofMembers builtin members
          (entries.modify index (Instance.setUrl text))) → ¬ QuotesUrl s file index text →
        ∀ entry, entries[index]? = some entry →
          ¬ Instance.Quotes text (Instance.read builtin index (Instance.setUrl text entry)).1 := by
      rintro s text hload hquotes entry hentry ⟨reason, hreason⟩
      refine hquotes ⟨_, hload, reason, Configuration.mem_readInstances_iff.mpr ⟨_, ?_, hreason⟩⟩
      rw [List.getElem?_modify_eq, hentry]
      rfl
    refine validate_of_sameShown hc hd
      (Configuration.sameShown_modify fun entry hentry => ?_) style dump
    exact Instance.sameRead_of_not_quotes hp hq (hspares hc hquotes entry hentry)
      (hspares hd hquotes' entry hentry)

/-- The report on a file depends on the password in the URL of an entry if and only if an error
quotes the URL. -/
theorem validate_eq_iff_not_quotesUrl (l : LoginText) {p q : String} (hp : IsWord p) (hq : IsWord q)
    {s t : Surroundings} {file : String} {index : Nat} {document : Value}
    (henvironment : s.environment = t.environment)
    (hs : Source.readFile s file = .ok (setUrl index (l.text p) document))
    (ht : Source.readFile t file = .ok (setUrl index (l.text q) document))
    (style : Style) (dump : Bool) :
    validate s style file dump = validate t style file dump ↔
      p = q ∨ ¬ QuotesUrl s file index (l.text p) ∧ ¬ QuotesUrl t file index (l.text q) := by
  constructor
  · intro hsame
    refine or_iff_not_imp_left.mpr fun hpq => ⟨fun hquotes => ?_, fun hquotes => ?_⟩
    · exact validate_ne_of_quotesUrl hp hq hpq henvironment hs ht hquotes style dump hsame
    · exact validate_ne_of_quotesUrl hq hp (Ne.symm hpq) henvironment.symm ht hs hquotes style dump
        hsame.symm
  · rintro (rfl | ⟨hquotes, hquotes'⟩)
    · have hload : load s (.ofFile file) = load t (.ofFile file) := by
        rw [load_setUrl hs, load_setUrl ht, henvironment]
      simp only [validate, hload]
    · exact validate_eq_of_not_quotesUrl hp hq henvironment hs ht hquotes hquotes' style dump

/-! ## Files with one URL -/

/-- The members of a document with one entry, which has a URL and nothing else. -/
def urlDocument (text : String) : Dict Value :=
  [("instances", .array [.object [("url", .string text)]])]

/-- A JSON file with such a document. -/
def urlFile (text : String) : Surroundings :=
  { files := [("conf.json", Text.encode (Json.write (.object (urlDocument text))))] }

/-- A document with one URL can be kept in a JSON file. -/
theorem readable_urlDocument (text : String) :
    Json.Readable (.object (urlDocument text)) Json.depthLimit where
  wellFormed := by
    simp [urlDocument, Value.WellFormed, Value.WellFormedMembers, Value.WellFormedItems,
      Dict.Ordered]
  fits := by
    simp [urlDocument, Value.AllScalars, Value.AllScalarsOfMembers, Value.AllScalarsOfItems,
      Value.Fits]
  rereads := by
    simp [urlDocument, Value.AllScalars, Value.AllScalarsOfMembers, Value.AllScalarsOfItems,
      Json.FloatRereads]
  shallow := show 3 ≤ Json.depthLimit by decide

theorem readFile_urlFile (text : String) :
    Source.readFile (urlFile text) "conf.json" =
      .ok (setUrl 0 text (.object (urlDocument ""))) := by
  have hname : "conf.json" = "conf" ++ ".json" := by decide
  have hjson : Source.isJson "conf.json" = true := by
    rw [hname]
    exact Source.isJson_append (by decide) (by decide)
  exact Source.readFile_write rfl hjson (readable_urlDocument text)

/-- The file quotes its URL just if the entry alone does. -/
theorem quotesUrl_urlFile_iff (text raw : String) :
    QuotesUrl (urlFile text) "conf.json" 0 raw ↔
      Instance.Quotes raw (Instance.read builtin 0 (.object [("url", .string text)])).1 := by
  have hload : load (urlFile text) (.ofFile "conf.json") = .ok (.ofMembers builtin
      (urlDocument "") [.object [("url", .string text)]]) := by
    rw [load_setUrl (readFile_urlFile text)]
    rfl
  constructor
  · rintro ⟨c, hc, reason, hmem⟩
    obtain rfl := Except.ok.inj (hload.symm.trans hc)
    obtain ⟨entry, hentry, hresult⟩ := Configuration.mem_readInstances_iff.mp hmem
    obtain rfl := Option.some.inj hentry
    exact ⟨reason, hresult⟩
  · rintro ⟨reason, hresult⟩
    exact ⟨_, hload, reason, Configuration.mem_readInstances_iff.mpr ⟨_, rfl, hresult⟩⟩

/-- A URL that is accepted looks the same with two passwords. -/
theorem validate_eq_iff_not_quotesUrl_accepted :
    validate (urlFile "http://admin:hunter2@[::1]:8080") .plain "conf.json" true =
      validate (urlFile "http://admin:letmein@[::1]:8080") .plain "conf.json" true := by
  let l : LoginText := ⟨"http", "admin", "[::1]:8080", by decide,
    List.all_eq_true.mp (by decide), by decide⟩
  have hp : l.text "hunter2" = "http://admin:hunter2@[::1]:8080" := by decide
  have hq : l.text "letmein" = "http://admin:letmein@[::1]:8080" := by decide
  have haccepted : ∀ text,
      (∃ i, (Instance.read builtin 0 (.object [("url", .string text)])).1 = .ok i) →
        ¬ QuotesUrl (urlFile text) "conf.json" 0 text := by
    rintro text ⟨i, hread⟩ hquotes
    obtain ⟨reason, hreason⟩ := (quotesUrl_urlFile_iff text text).mp hquotes
    cases hread.symm.trans hreason
  have h := validate_eq_iff_not_quotesUrl l (p := "hunter2") (q := "letmein") (by decide)
    (by decide) (by rfl) (readFile_urlFile _) (readFile_urlFile _) .plain true
  rw [hp, hq] at h
  exact h.mpr (Or.inr ⟨haccepted _ ⟨_, rfl⟩, haccepted _ ⟨_, rfl⟩⟩)

/-- A port that is out of range is reported with the URL, and the URL with its password. -/
theorem validate_reveals_password :
    validate (urlFile "http://admin:hunter2@[::1]:99999") .plain "conf.json" false ≠
      validate (urlFile "http://admin:letmein@[::1]:99999") .plain "conf.json" false := by
  let l : LoginText := ⟨"http", "admin", "[::1]:99999", by decide,
    List.all_eq_true.mp (by decide), by decide⟩
  have hp : l.text "hunter2" = "http://admin:hunter2@[::1]:99999" := by decide
  have hq : l.text "letmein" = "http://admin:letmein@[::1]:99999" := by decide
  have hquotes : QuotesUrl (urlFile "http://admin:hunter2@[::1]:99999") "conf.json" 0
      "http://admin:hunter2@[::1]:99999" :=
    (quotesUrl_urlFile_iff _ _).mpr ⟨"invalid port number", rfl⟩
  rw [← hp] at hquotes
  have h := validate_ne_of_quotesUrl (l := l) (p := "hunter2") (q := "letmein") (by decide)
    (by decide) (by decide) (by rfl) (readFile_urlFile _) (readFile_urlFile _) hquotes .plain false
  rwa [hp, hq] at h

end CommandLine.Action

end ClusterMonitor

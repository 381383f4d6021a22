import ClusterMonitor.Proofs.Json.OneLine
import ClusterMonitor.Proofs.Schema.Consistency
import ClusterMonitor.Proofs.Yaml.Lines
import ClusterMonitor.Template

/-!
# Which lines of a template are live

A template is a document in which only the required options count: all else is commented out. The
documentation of an option and its shown value are written line by line, each line with its own sign
of a comment. The line that names an option has the name and a default in it as they are; where these
bring line feeds of their own, what stands behind the first one is no longer part of the comment.

* `Template.Allowed` — what a line of a template may be.
* `Template.mem_lines_cases` — each line that is written is allowed, or names an option.
* `Template.OpensOnce` — the one line that opens the entry of the instances, and where it stands.
* `Template.render_allowed_iff` — the lines of a template are allowed exactly when the line feeds in
  names and defaults do no harm; without such line feeds they are, and the entry is opened once.
-/

namespace ClusterMonitor

open Text (OneLine oneLine_append oneLine_ofList linesOf)

namespace Schema

/-- An accepted schema has a required option for instances. -/
theorem exists_required_of_check {s : Schema} (h : s.check = .ok ()) :
    ∃ o ∈ s.instances, o.required = true := by
  have hfault := fault?_eq_none_of_check h
  simp only [fault?, Option.orElse_eq_orElse, Option.orElse_eq_or, Option.or_eq_none_iff] at hfault
  obtain ⟨-, -, hrequired, -⟩ := hfault
  have hany : s.instances.any (·.required) = true := by
    by_contra hnone
    simp [hnone] at hrequired
  simpa using hany

/-- To put the options in the order of display neither adds nor drops one. -/
theorem mem_optionsByPriority {s : Schema} {scope : OptionScope} {o : OptionSpec} :
    o ∈ s.optionsByPriority scope ↔ o ∈ s.options scope := by
  simp [optionsByPriority]

end Schema

namespace Template

/-! ## Kinds of lines -/

/-- There is nothing but white space in the line. -/
def IsBlank (line : String) : Prop := Unicode.isBlankText line = true

/-- The first character of the line that is no space is a `#`. -/
def IsComment (line : String) : Prop := (line.toList.dropWhile (· == ' ')).head? = some '#'

/-- What a line of a template may be. -/
inductive Allowed (s : Schema) : String → Prop where
  | blank {line : String} (h : IsBlank line) : Allowed s line
  | comment {line : String} (h : IsComment line) : Allowed s line
  | sharedHeader : Allowed s "init_config:"
  | ownHeader : Allowed s "instances:"
  /-- A line of a required option with its shown value, four columns in. -/
  | live {scope : OptionScope} {o : OptionSpec} {line : String} (ho : o ∈ s.options scope)
      (hrequired : o.required = true) (hline : line ∈ valueLines o) : Allowed s ("    " ++ line)
  /-- The first line of the first required option of an instance, in the order of display. -/
  | opening {o : OptionSpec} {first : String} {more : List String}
      (ho : (s.optionsByPriority .instances).find? (·.required) = some o)
      (hlines : valueLines o = first :: more) : Allowed s ("  - " ++ first)

theorem isComment_hash (text : String) : IsComment ("#" ++ text) := by
  simp [IsComment]

/-- A comment that is indented is still one. -/
theorem isComment_indent {line : String} (h : IsComment line) : IsComment (indent ++ line) := by
  have hindent : indent.toList = [' ', ' ', ' ', ' '] := by decide
  simpa [IsComment, hindent] using h

/-- Dropping a carriage return brings in no line feed. -/
theorem oneLine_dropCarriageReturn {line : String} (h : OneLine line) :
    OneLine (Text.dropCarriageReturn line) := by
  unfold Text.dropCarriageReturn
  split
  · rename_i rest hreverse
    rw [oneLine_ofList, List.mem_reverse]
    intro hmem
    have hline : '\n' ∈ line.toList.reverse := hreverse ▸ List.mem_cons_of_mem _ hmem
    exact h (List.mem_reverse.mp hline)
  · exact h

/-- A line that is put into a comment is one. -/
theorem isComment_commentLine (line : String) : IsComment (commentLine line) := by
  unfold commentLine
  split
  · exact isComment_hash "#"
  · exact isComment_hash ("# " ++ line)

/-! ## The lines of one option -/

/-- The line that names an option is a comment as far as its first line feed. -/
theorem isComment_parameter (text : String) : IsComment (indent ++ "## " ++ text) := by
  have hcomment := isComment_indent (isComment_hash ("# " ++ text))
  rwa [← String.append_assoc, ← String.append_assoc] at hcomment

/-- The label of a specification fits on one line. -/
theorem oneLine_label (v : ValueSpec) : OneLine v.label := by
  fun_induction ValueSpec.label v with
  | case1 _ _ items _ _ _ ih =>
    simp only [oneLine_append]
    exact ⟨⟨by decide, ih⟩, by decide⟩
  | case2 => decide
  | case3 => decide
  | case4 type => cases type <;> decide

/-- A default fits on one line unless it is a text with a line feed. -/
theorem oneLine_defaultText {v : Value} (h : ∀ text, v = .string text → OneLine text) :
    OneLine (defaultText v) := by
  cases v with
  | string text => exact h text rfl
  | _ => exact Json.oneLine_write _

/-- Names and defaults are all that can bring line feeds to the line that names an option. -/
theorem oneLine_parameterLine {o : OptionSpec} (hname : OneLine o.name)
    (hdefault : ∀ text, o.value.default = some (.string text) → OneLine text) :
    OneLine (parameterLine o) := by
  have hneed : OneLine (if o.required then "required" else "optional") := by
    split
    · decide
    · decide
  have hnamed : OneLine ("@param " ++ o.name ++ " - " ++ o.value.label ++ " - " ++
      if o.required then "required" else "optional") := by
    simp only [oneLine_append]
    exact ⟨⟨⟨⟨⟨by decide, hname⟩, by decide⟩, oneLine_label _⟩, by decide⟩, hneed⟩
  unfold parameterLine
  cases h : o.value.default with
  | none => exact (oneLine_append _ _).mpr ⟨hnamed, by decide⟩
  | some v =>
    have hv : OneLine (defaultText v) := by
      refine oneLine_defaultText fun text htext => ?_
      exact hdefault text (by rw [h, htext])
    have hfallback : OneLine (" - default: " ++ defaultText v) :=
      (oneLine_append _ _).mpr ⟨by decide, hv⟩
    exact (oneLine_append _ _).mpr ⟨hnamed, hfallback⟩

/-- The lines of an option that do not count: what is said about it, and its shown value unless it is
required. -/
def quietLines (o : OptionSpec) : List String :=
  ["", indent ++ "## " ++ parameterLine o] ++ (documentation o).map (indent ++ ·) ++
    [indent ++ "#"] ++
    if o.required then [] else (valueLines o).map fun line => indent ++ "# " ++ line

/-- The lines of an option are its quiet lines, and behind them its shown value if it is
required. -/
theorem optionLines_eq (o : OptionSpec) (opens : Bool) :
    optionLines o opens =
      quietLines o ++ if o.required then liveLines opens (valueLines o) else [] := by
  unfold optionLines quietLines
  cases o.required <;> simp

/-- Each line of a documentation is one line, since texts are cut at their line feeds. -/
theorem oneLine_of_mem_documentation {o : OptionSpec} {line : String}
    (h : line ∈ documentation o) : OneLine line := by
  obtain ⟨piece, hpiece, rfl⟩ := List.mem_map.mp h
  have hpiece : OneLine (String.ofList piece) :=
    (oneLine_ofList piece).mpr (Text.notMem_of_mem_splitLines hpiece)
  unfold commentLine
  split
  · decide
  · exact (oneLine_append _ _).mpr ⟨by decide, oneLine_dropCarriageReturn hpiece⟩

/-- Indentation does not change whether a text is one line. -/
theorem oneLine_indent (line : String) : OneLine (indent ++ line) ↔ OneLine line := by
  have hindent : OneLine indent := by decide
  rw [oneLine_append]
  exact and_iff_right hindent

/-- Apart from the line that names the option, the lines that do not count are blank or comments, and
stand on one line each. -/
theorem mem_quietLines_cases {o : OptionSpec} {line : String} (h : line ∈ quietLines o) :
    line = indent ++ "## " ++ parameterLine o ∨
      OneLine line ∧ (IsBlank line ∨ IsComment line) := by
  unfold quietLines at h
  rcases List.mem_append.mp h with h | h
  · rcases List.mem_append.mp h with h | h
    · rcases List.mem_append.mp h with h | h
      · rcases List.mem_pair.mp h with rfl | rfl
        · exact Or.inr ⟨by decide, Or.inl rfl⟩
        · exact Or.inl rfl
      · -- the documentation
        obtain ⟨text, htext, rfl⟩ := List.mem_map.mp h
        have honeLine := oneLine_of_mem_documentation htext
        obtain ⟨piece, -, rfl⟩ := List.mem_map.mp htext
        exact Or.inr ⟨(oneLine_indent _).mpr honeLine,
          Or.inr (isComment_indent (isComment_commentLine _))⟩
    · obtain rfl := List.mem_singleton.mp h
      exact Or.inr ⟨by decide, Or.inr (isComment_indent (isComment_hash ""))⟩
  · -- the shown value
    split at h
    · cases h
    · obtain ⟨text, htext, rfl⟩ := List.mem_map.mp h
      have honeLine := Yaml.oneLine_of_mem_lines _ text htext
      have hcomment := isComment_indent (isComment_hash (" " ++ text))
      refine Or.inr ⟨?_, Or.inr ?_⟩
      · exact (oneLine_append _ _).mpr ⟨by decide, honeLine⟩
      · rwa [← String.append_assoc, ← String.append_assoc] at hcomment

/-- The line that names an option is one of its quiet lines. -/
theorem parameter_mem_quietLines (o : OptionSpec) :
    indent ++ "## " ++ parameterLine o ∈ quietLines o := by
  simp [quietLines]

theorem liveLines_false (lines : List String) : liveLines false lines = lines.map (indent ++ ·) := by
  cases lines <;> rfl

/-! ## The parts of a template -/

/-- The lines above the options of instances. -/
def sharedLines (s : Schema) : List String :=
  ["## All options defined here are available to all instances.", "#", "init_config:"] ++
    (s.optionsByPriority .initConfig).flatMap (optionLines · false) ++
    ["", "## Every instance is scheduled independently of the others.", "#"]

/-- The lines below the options of instances. -/
def lowerLines (s : Schema) (withLogs : Bool) : List String :=
  if withLogs && !s.logs.isEmpty then "" :: logLines s.logs else []

/-- Once the entry is open, options are written one after another. -/
theorem instanceLines_true (options : List OptionSpec) :
    instanceLines true options = options.flatMap (optionLines · false) := by
  induction options with
  | nil => rfl
  | cons o rest ih => simp [instanceLines, ih]

/-- The first required option opens the entry; those before it are not required and have no live
lines. -/
theorem instanceLines_false {optional : List OptionSpec} {first : OptionSpec}
    (hoptional : ∀ o ∈ optional, o.required = false) (hfirst : first.required = true)
    (rest : List OptionSpec) :
    instanceLines false (optional ++ first :: rest) =
      optional.flatMap quietLines ++ optionLines first true ++
        rest.flatMap (optionLines · false) := by
  induction optional with
  | nil => simp [instanceLines, hfirst, instanceLines_true]
  | cons o optional ih =>
    have ho := hoptional o List.mem_cons_self
    have hrest := ih fun x hx => hoptional x (List.mem_cons_of_mem _ hx)
    simp [instanceLines, ho, hrest, optionLines_eq]

/-- The first required option of an accepted schema, in the order of display. -/
theorem exists_first {s : Schema} (hs : s.check = .ok ()) :
    ∃ optional first rest, s.optionsByPriority .instances = optional ++ first :: rest ∧
      (∀ o ∈ optional, o.required = false) ∧ first.required = true := by
  obtain ⟨o, ho, hrequired⟩ := Schema.exists_required_of_check hs
  have hfind : ((s.optionsByPriority .instances).find? (·.required)).isSome := by
    rw [List.find?_isSome]
    exact ⟨o, Schema.mem_optionsByPriority.mpr ho, hrequired⟩
  obtain ⟨first, hfirst⟩ := Option.isSome_iff_exists.mp hfind
  obtain ⟨hrequired, optional, rest, heq, hoptional⟩ := List.find?_eq_some_iff_append.mp hfirst
  exact ⟨optional, first, rest, heq, by simpa using hoptional, hrequired⟩

/-- A template in three parts: the shared section, the options of instances below their header, and
the log sources. -/
theorem lines_eq {s : Schema} (hs : s.check = .ok ()) (withLogs : Bool) :
    lines s withLogs = sharedLines s ++
      "instances:" :: (instanceLines false (s.optionsByPriority .instances) ++
        lowerLines s withLogs) := by
  obtain ⟨o, ho, hrequired⟩ := Schema.exists_required_of_check hs
  have hany : (s.optionsByPriority .instances).any (·.required) = true :=
    List.any_eq_true.mpr ⟨o, Schema.mem_optionsByPriority.mpr ho, hrequired⟩
  simp [lines, sharedLines, lowerLines, hany]

/-- A fixed line of a comment. It is given by its characters, which is how literals are compared
with it. -/
theorem comment_ofList {cs : List Char} (h : '\n' ∉ '#' :: cs) :
    OneLine (String.ofList ('#' :: cs)) ∧ (String.ofList ('#' :: cs)).toList.head? = some '#' :=
  ⟨(Text.oneLine_ofList _).mpr h, congrArg List.head? String.toList_ofList⟩

/-- All lines about log sources are comments, or blank. -/
theorem mem_lowerLines {s : Schema} {withLogs : Bool} {line : String}
    (h : line ∈ lowerLines s withLogs) : OneLine line ∧ (IsBlank line ∨ IsComment line) := by
  have hheader : ∀ text ∈ logHeader, OneLine text ∧ text.toList.head? = some '#' := by
    intro text htext
    simp only [logHeader, List.mem_cons, List.not_mem_nil, or_false] at htext
    rcases htext with rfl | rfl | rfl | rfl | rfl | rfl | rfl | rfl | rfl <;>
      exact comment_ofList (by decide)
  unfold lowerLines at h
  split at h
  · rcases List.mem_cons.mp h with rfl | h
    · exact ⟨by decide, Or.inl rfl⟩
    · rcases List.mem_append.mp h with h | h
      · obtain ⟨honeLine, hhash⟩ := hheader line h
        obtain ⟨cs, hcs⟩ := List.head?_eq_some_iff.mp hhash
        exact ⟨honeLine, Or.inr (by simp [IsComment, hcs])⟩
      · obtain ⟨text, htext, rfl⟩ := List.mem_map.mp h
        have honeLine := Yaml.oneLine_of_mem_lines _ text htext
        have hcomment := isComment_hash (" " ++ text)
        rw [← String.append_assoc] at hcomment
        exact ⟨(oneLine_append _ _).mpr ⟨by decide, honeLine⟩, Or.inr hcomment⟩
  · cases h

/-! ## What is written -/

/-- The line names an option, or is allowed and stands on one line. -/
def NamesOrAllowed (s : Schema) (line : String) : Prop :=
  (∃ scope, ∃ o ∈ s.options scope, line = indent ++ "## " ++ parameterLine o) ∨
    OneLine line ∧ Allowed s line

/-- A blank line or a comment is allowed. -/
theorem namesOrAllowed_of_quiet {s : Schema} {line : String}
    (h : OneLine line ∧ (IsBlank line ∨ IsComment line)) : NamesOrAllowed s line := by
  obtain ⟨honeLine, h | h⟩ := h
  · exact Or.inr ⟨honeLine, .blank h⟩
  · exact Or.inr ⟨honeLine, .comment h⟩

/-- Each line of an option names it or is allowed, if the option opens the entry only where it is
the first required one. -/
theorem namesOrAllowed_of_mem_optionLines {s : Schema} {scope : OptionScope} {o : OptionSpec}
    (ho : o ∈ s.optionsByPriority scope) {opens : Bool}
    (hopens : opens = true → (s.optionsByPriority .instances).find? (·.required) = some o)
    {line : String} (h : line ∈ optionLines o opens) : NamesOrAllowed s line := by
  have ho := Schema.mem_optionsByPriority.mp ho
  rw [optionLines_eq] at h
  rcases List.mem_append.mp h with h | h
  · rcases mem_quietLines_cases h with h | h
    · exact Or.inl ⟨scope, o, ho, h⟩
    · exact namesOrAllowed_of_quiet h
  · split at h
    · rename_i hrequired
      have hlive : ∀ text ∈ valueLines o, NamesOrAllowed s (indent ++ text) := fun text htext =>
        Or.inr ⟨(oneLine_indent _).mpr (Yaml.oneLine_of_mem_lines _ text htext),
          .live ho hrequired htext⟩
      cases opens with
      | false =>
        rw [liveLines_false] at h
        obtain ⟨text, htext, rfl⟩ := List.mem_map.mp h
        exact hlive text htext
      | true =>
        -- only the first of the lines opens the entry
        obtain ⟨first, more, hlines⟩ :=
          List.exists_cons_of_ne_nil (Yaml.lines_ne_nil (.object [(o.name, shownValue o)]))
        have hvalue : valueLines o = first :: more := hlines
        rw [hvalue] at h
        rcases List.mem_cons.mp h with rfl | h
        · have hfirst := Yaml.oneLine_of_mem_lines _ first (hlines ▸ List.mem_cons_self)
          exact Or.inr ⟨(oneLine_append _ _).mpr ⟨by decide, hfirst⟩, .opening (hopens rfl) hvalue⟩
        · obtain ⟨text, htext, rfl⟩ := List.mem_map.mp h
          exact hlive text (hvalue ▸ List.mem_cons_of_mem _ htext)
    · cases h

theorem namesOrAllowed_of_mem_sharedLines {s : Schema} {line : String}
    (h : line ∈ sharedLines s) : NamesOrAllowed s line := by
  have hfixed : ∀ text ∈ ["## All options defined here are available to all instances.", "#", "",
      "## Every instance is scheduled independently of the others."],
      OneLine text ∧ (text = "" ∨ text.toList.head? = some '#') := by
    simp only [List.forall_mem_cons]
    refine ⟨?_, ?_, ⟨by decide, Or.inl trivial⟩, ?_, by simp⟩
    · exact (comment_ofList (by decide)).imp_right Or.inr
    · exact (comment_ofList (by decide)).imp_right Or.inr
    · exact (comment_ofList (by decide)).imp_right Or.inr
  have hcomments : ∀ text ∈ ["## All options defined here are available to all instances.", "#", "",
      "## Every instance is scheduled independently of the others."], NamesOrAllowed s text := by
    intro text htext
    obtain ⟨honeLine, rfl | hhash⟩ := hfixed text htext
    · exact Or.inr ⟨honeLine, .blank rfl⟩
    · obtain ⟨cs, hcs⟩ := List.head?_eq_some_iff.mp hhash
      exact Or.inr ⟨honeLine, .comment (by simp [IsComment, hcs])⟩
  simp only [sharedLines, List.mem_append, List.mem_flatMap, List.mem_cons, List.not_mem_nil,
    or_false] at h
  rcases h with (h | ⟨o, ho, hline⟩) | h
  · rcases h with rfl | rfl | rfl
    · exact hcomments _ (by simp)
    · exact hcomments _ (by simp)
    · exact Or.inr ⟨by decide, .sharedHeader⟩
  · exact namesOrAllowed_of_mem_optionLines ho (fun h => by cases h) hline
  · rcases h with rfl | rfl | rfl
    · exact hcomments _ (by simp)
    · exact hcomments _ (by simp)
    · exact hcomments _ (by simp)

theorem namesOrAllowed_of_mem_instanceLines {s : Schema} (hs : s.check = .ok ()) {line : String}
    (h : line ∈ instanceLines false (s.optionsByPriority .instances)) : NamesOrAllowed s line := by
  obtain ⟨optional, first, rest, heq, hoptional, hfirst⟩ := exists_first hs
  have hfind : (s.optionsByPriority .instances).find? (·.required) = some first := by
    rw [heq]
    exact List.find?_eq_some_iff_append.mpr
      ⟨hfirst, optional, rest, rfl, by simpa using hoptional⟩
  have hmem : ∀ o ∈ optional ++ first :: rest, o ∈ s.optionsByPriority .instances :=
    fun o ho => heq ▸ ho
  rw [heq, instanceLines_false hoptional hfirst] at h
  simp only [List.mem_append, List.mem_flatMap] at h
  rcases h with (⟨o, ho, hline⟩ | hline) | ⟨o, ho, hline⟩
  · -- an option before the first required one, which opens nothing
    have hline : line ∈ optionLines o false := by
      rw [optionLines_eq]
      exact List.mem_append_left _ hline
    exact namesOrAllowed_of_mem_optionLines (hmem o (by simp [ho])) (fun h => by cases h) hline
  · exact namesOrAllowed_of_mem_optionLines (hmem first (by simp)) (fun _ => hfind) hline
  · exact namesOrAllowed_of_mem_optionLines (hmem o (by simp [ho])) (fun h => by cases h) hline

theorem namesOrAllowed_of_mem_lines {s : Schema} (hs : s.check = .ok ()) {withLogs : Bool}
    {line : String} (h : line ∈ lines s withLogs) : NamesOrAllowed s line := by
  rw [lines_eq hs, List.mem_append, List.mem_cons, List.mem_append] at h
  rcases h with h | rfl | h | h
  · exact namesOrAllowed_of_mem_sharedLines h
  · exact Or.inr ⟨by decide, .ownHeader⟩
  · exact namesOrAllowed_of_mem_instanceLines hs h
  · exact namesOrAllowed_of_quiet (mem_lowerLines h)

/-- The line that names an option is written. -/
theorem parameter_mem_lines {s : Schema} (hs : s.check = .ok ()) (withLogs : Bool)
    {scope : OptionScope} {o : OptionSpec} (ho : o ∈ s.options scope) :
    indent ++ "## " ++ parameterLine o ∈ lines s withLogs := by
  have hoption (opens : Bool) : indent ++ "## " ++ parameterLine o ∈ optionLines o opens := by
    rw [optionLines_eq]
    exact List.mem_append_left _ (parameter_mem_quietLines o)
  have hinstance : ∀ (options : List OptionSpec) (isOpen : Bool), o ∈ options →
      indent ++ "## " ++ parameterLine o ∈ instanceLines isOpen options := by
    intro options
    induction options with
    | nil => intro _ h; cases h
    | cons x rest ih =>
      intro isOpen h
      rcases List.mem_cons.mp h with rfl | h
      · exact List.mem_append_left _ (hoption _)
      · exact List.mem_append_right _ (ih _ h)
  have hmem := Schema.mem_optionsByPriority.mpr ho
  rw [lines_eq hs]
  cases scope with
  | initConfig =>
    have hshared : indent ++ "## " ++ parameterLine o ∈ sharedLines s := by
      simp only [sharedLines, List.mem_append, List.mem_flatMap]
      exact Or.inl (Or.inr ⟨o, hmem, hoption false⟩)
    exact List.mem_append_left _ hshared
  | instances =>
    have hown := hinstance _ false hmem
    simp [hown]

/-! ## What opens the entry -/

/-- The line opens an item of a list, two columns in. -/
def startsItem (line : String) : Bool := "  - ".toList.isPrefixOf line.toList

/-- Blank lines and comments open no item. -/
theorem startsItem_of_quiet {line : String} (h : IsBlank line ∨ IsComment line) :
    startsItem line = false := by
  by_contra hstarts
  have hprefix : "  - ".toList <+: line.toList := by
    simpa [startsItem] using hstarts
  obtain ⟨cs, hcs⟩ := hprefix
  have hchars : line.toList = ' ' :: ' ' :: '-' :: ' ' :: cs := by
    rw [← hcs]
    rfl
  rcases h with h | h
  · -- a dash is no white space
    have hdash : Unicode.isBlank '-' = false := by decide
    unfold IsBlank Unicode.isBlankText at h
    simp [hchars, hdash] at h
  · simp [IsComment, hchars] at h

/-- A line four columns in opens no item. -/
theorem startsItem_indent (line : String) : startsItem ("    " ++ line) = false := by
  have hindent : "    ".toList = [' ', ' ', ' ', ' '] := by decide
  have hitem : "  - ".toList = [' ', ' ', '-', ' '] := by decide
  simp [startsItem, hindent, hitem, List.isPrefixOf]

theorem startsItem_opening (line : String) : startsItem ("  - " ++ line) = true := by
  simp [startsItem]

/-- The first line of the first required option of an instance, in the order of display, opens the
entry; every other line of a required option stands four columns in; and no other line of the part
opens an item. -/
def OpensOnce (s : Schema) (rendered : List String) : Prop :=
  ∃ (shared own lower : List String) (optional : List OptionSpec) (first : OptionSpec)
    (rest : List OptionSpec) (line : String) (more : List String)
    (quiet : OptionSpec → List String),
    rendered = shared ++ "instances:" :: (own ++ lower) ∧ "instances:" ∉ shared ∧
    (∀ text ∈ lower, IsBlank text ∨ IsComment text) ∧
    s.optionsByPriority .instances = optional ++ first :: rest ∧
    (∀ o ∈ optional, o.required = false) ∧ first.required = true ∧
    valueLines first = line :: more ∧
    (∀ o, ∀ text ∈ quiet o, IsBlank text ∨ IsComment text) ∧
    own = optional.flatMap quiet ++
      (quiet first ++ ("  - " ++ line) :: more.map ("    " ++ ·)) ++
      rest.flatMap (fun o => quiet o ++
        if o.required then (valueLines o).map ("    " ++ ·) else []) ∧
    own.filter startsItem = ["  - " ++ line]

/-- The quiet lines of an option are blank or comments. -/
theorem quiet_of_mem_quietLines {o : OptionSpec} {line : String} (h : line ∈ quietLines o) :
    IsBlank line ∨ IsComment line := by
  rcases mem_quietLines_cases h with rfl | ⟨-, h⟩
  · exact Or.inr (isComment_parameter (parameterLine o))
  · exact h

/-- The header of the instances is neither. -/
theorem not_quiet_ownHeader : ¬ (IsBlank "instances:" ∨ IsComment "instances:") := by
  have hletter : Unicode.isBlank 'i' = false := by decide
  rintro (h | h)
  · simp [IsBlank, Unicode.isBlankText, hletter] at h
  · simp [IsComment] at h

/-- The header of the instances is written once, and not above them. -/
theorem ownHeader_notMem_sharedLines (s : Schema) : "instances:" ∉ sharedLines s := by
  intro h
  simp only [sharedLines, List.mem_append, List.mem_flatMap] at h
  rcases h with (h | ⟨o, -, h⟩) | h
  · revert h
    decide
  · rw [optionLines_eq, liveLines_false] at h
    rcases List.mem_append.mp h with h | h
    · exact not_quiet_ownHeader (quiet_of_mem_quietLines h)
    · -- live lines stand in
      split at h
      · obtain ⟨text, -, heq⟩ := List.mem_map.mp h
        have hindent : indent.toList = [' ', ' ', ' ', ' '] := by decide
        have hchars := congrArg String.toList heq
        simp [hindent] at hchars
      · cases h
  · revert h
    decide

/-- Lines that open no item may be left out when those that do are counted. -/
theorem filter_startsItem_eq_nil {texts : List String} (h : ∀ text ∈ texts, startsItem text = false) :
    texts.filter startsItem = [] := by
  rw [List.filter_eq_nil_iff]
  intro text htext
  simp [h text htext]

/-- The lines of a template open the entry once. -/
theorem opensOnce_lines {s : Schema} (hs : s.check = .ok ()) (withLogs : Bool) :
    OpensOnce s (lines s withLogs ++ [""]) := by
  obtain ⟨optional, first, rest, heq, hoptional, hfirst⟩ := exists_first hs
  obtain ⟨line, more, hlines⟩ :=
    List.exists_cons_of_ne_nil (Yaml.lines_ne_nil (.object [(first.name, shownValue first)]))
  have hvalue : valueLines first = line :: more := hlines
  have hquiet : ∀ o, (quietLines o).filter startsItem = [] := fun o =>
    filter_startsItem_eq_nil fun text htext => startsItem_of_quiet (quiet_of_mem_quietLines htext)
  have hlive : ∀ texts : List String, (texts.map ("    " ++ ·)).filter startsItem = [] := by
    intro texts
    refine filter_startsItem_eq_nil ?_
    rintro _ htext
    obtain ⟨text, -, rfl⟩ := List.mem_map.mp htext
    exact startsItem_indent text
  -- the entry is opened at the first required option, and only there
  have hown : instanceLines false (s.optionsByPriority .instances) =
      optional.flatMap quietLines ++
        (quietLines first ++ ("  - " ++ line) :: more.map ("    " ++ ·)) ++
        rest.flatMap (fun o => quietLines o ++
          if o.required then (valueLines o).map ("    " ++ ·) else []) := by
    rw [heq, instanceLines_false hoptional hfirst, optionLines_eq, if_pos hfirst, hvalue]
    simp only [optionLines_eq, liveLines_false]
    rfl
  have hrest : (rest.flatMap fun o => quietLines o ++
      if o.required then (valueLines o).map ("    " ++ ·) else []).filter startsItem = [] := by
    rw [List.filter_flatMap, List.flatMap_eq_nil_iff]
    intro o _
    rw [List.filter_append, hquiet]
    split
    · exact hlive (valueLines o)
    · rfl
  refine ⟨sharedLines s, _, lowerLines s withLogs ++ [""], optional, first, rest, line, more,
    quietLines, ?_, ownHeader_notMem_sharedLines s, ?_, heq, hoptional, hfirst, hvalue,
    fun o text => quiet_of_mem_quietLines, hown, ?_⟩
  · rw [lines_eq hs]
    simp
  · intro text htext
    rcases List.mem_append.mp htext with htext | htext
    · exact (mem_lowerLines htext).2
    · obtain rfl := List.mem_singleton.mp htext
      exact Or.inl rfl
  · rw [hown, List.filter_append, List.filter_append, List.filter_append, hquiet, hrest,
      List.filter_flatMap, List.filter_cons_of_pos (startsItem_opening line), hlive]
    simp [hquiet]

/-! ## The rendered text -/

/-- A line that names an option is in order if its first line is, being a comment, and all that its
line feeds bring in are allowed. -/
theorem allowed_of_mem_linesOf_parameter {s : Schema} {o : OptionSpec}
    (h : ∀ line ∈ (linesOf (parameterLine o)).tail, Allowed s line) {line : String}
    (hline : line ∈ linesOf (indent ++ "## " ++ parameterLine o)) : Allowed s line := by
  have hsign : OneLine (indent ++ "## ") := by decide
  obtain ⟨first, heq⟩ := Text.linesOf_append_of_oneLine hsign (parameterLine o)
  rw [heq] at hline
  rcases List.mem_cons.mp hline with rfl | hline
  · exact .comment (isComment_parameter first)
  · exact h line hline

/-- The lines between the line feeds of a template are allowed exactly when what stands behind a line
feed in the line that names an option is. Where no name and no default has a line feed, they are
allowed, and the entry of the instances is opened once. -/
theorem render_allowed_iff {s : Schema} (hs : s.check = .ok ()) (withLogs : Bool) :
    ((∀ line ∈ linesOf (render s withLogs), Allowed s line) ↔
      ∀ scope, ∀ o ∈ s.options scope,
        ∀ line ∈ (linesOf (parameterLine o)).tail, Allowed s line) ∧
    ((∀ scope, ∀ o ∈ s.options scope, OneLine o.name ∧
        ∀ text, o.value.default = some (.string text) → OneLine text) →
      (∀ line ∈ linesOf (render s withLogs), Allowed s line) ∧
        OpensOnce s (linesOf (render s withLogs))) := by
  have hiff : (∀ line ∈ linesOf (render s withLogs), Allowed s line) ↔
      ∀ scope, ∀ o ∈ s.options scope,
        ∀ line ∈ (linesOf (parameterLine o)).tail, Allowed s line := by
    rw [render, Text.linesOf_join]
    constructor
    · intro hallowed scope o ho line hline
      have hsign : OneLine (indent ++ "## ") := by decide
      obtain ⟨first, heq⟩ := Text.linesOf_append_of_oneLine hsign (parameterLine o)
      have hwritten := parameter_mem_lines hs withLogs ho
      refine hallowed line (List.mem_append_left _ (List.mem_flatMap.mpr ⟨_, hwritten, ?_⟩))
      rw [heq]
      exact List.mem_cons_of_mem _ hline
    · intro hbehind line hline
      rcases List.mem_append.mp hline with hline | hline
      · -- each text is one line, but for those that name an option
        obtain ⟨text, htext, hline⟩ := List.mem_flatMap.mp hline
        rcases namesOrAllowed_of_mem_lines hs htext with ⟨scope, o, ho, rfl⟩ | ⟨honeLine, htext⟩
        · exact allowed_of_mem_linesOf_parameter (hbehind scope o ho) hline
        · rw [Text.linesOf_of_oneLine honeLine] at hline
          obtain rfl := List.mem_singleton.mp hline
          exact htext
      · obtain rfl := List.mem_singleton.mp hline
        exact .blank rfl
  refine ⟨hiff, fun htexts => ?_⟩
  have hone : ∀ scope, ∀ o ∈ s.options scope, OneLine (parameterLine o) := by
    intro scope o ho
    obtain ⟨hname, hdefault⟩ := htexts scope o ho
    exact oneLine_parameterLine hname hdefault
  have hlines : ∀ line ∈ lines s withLogs, OneLine line := by
    intro line hline
    rcases namesOrAllowed_of_mem_lines hs hline with ⟨scope, o, ho, rfl⟩ | ⟨honeLine, -⟩
    · exact (oneLine_append _ _).mpr ⟨by decide, hone scope o ho⟩
    · exact honeLine
  constructor
  · refine hiff.mpr fun scope o ho line hline => ?_
    rw [Text.linesOf_of_oneLine (hone scope o ho)] at hline
    cases hline
  · rw [render, Text.linesOf_join_of_oneLine hlines]
    exact opensOnce_lines hs withLogs

/-- An example of two lines and a description with an empty line, beside an option with a default: all
lines are allowed, and the entry is opened once. -/
theorem render_allowed_iff_two_lines :
    let url : OptionSpec :=
      { name := "url", description := "Where to ask.\n\nAny server will do.", required := true
        value := { type := .string, «example» := some (.string "http://one\nhttp://two") } }
    let level : OptionSpec :=
      { name := "level", value := { type := .string, default := some (.string "# low") } }
    let s : Schema := { name := "s", instances := [level, url] }
    s.check = .ok () ∧ (∀ line ∈ linesOf (render s true), Allowed s line) ∧
      OpensOnce s (linesOf (render s true)) := by
  intro url level s
  have hs : s.check = .ok () := by
    unfold s url level
    rfl
  obtain ⟨-, hall⟩ := render_allowed_iff hs true
  refine ⟨hs, hall ?_⟩
  intro scope o ho
  cases scope with
  | initConfig => cases ho
  | instances =>
    rcases List.mem_pair.mp ho with rfl | rfl
    · refine ⟨by decide, fun text htext => ?_⟩
      obtain rfl := Value.string.inj (Option.some.inj htext)
      decide
    · exact ⟨by decide, fun text htext => by cases htext⟩

/-- The second line of a default is live, at the top level of the document. -/
theorem render_default_escapes :
    let url : OptionSpec := { name := "url", required := true, value := { type := .string } }
    let greeting : OptionSpec :=
      { name := "greeting", value := { type := .string, default := some (.string "one\ntwo: 2") } }
    let s : Schema := { name := "s", instances := [url, greeting] }
    s.check = .ok () ∧ "two: 2" ∈ linesOf (render s true) ∧ ¬ Allowed s "two: 2" := by
  intro url greeting s
  have hs : s.check = .ok () := by
    unfold s url greeting
    rfl
  have hparameter : linesOf (indent ++ "## " ++ parameterLine greeting) =
      ["    ## @param greeting - string - optional - default: one", "two: 2"] := by
    unfold greeting
    rfl
  have hgreeting : greeting ∈ s.options .instances := by simp [Schema.options, s]
  have hwritten := parameter_mem_lines hs true hgreeting
  have hrendered : "two: 2" ∈ linesOf (render s true) := by
    rw [render, Text.linesOf_join]
    refine List.mem_append_left _ (List.mem_flatMap.mpr ⟨_, hwritten, ?_⟩)
    rw [hparameter]
    exact List.mem_cons_of_mem _ List.mem_cons_self
  have hother : ∀ line, Allowed s line → line ≠ "two: 2" := by
    intro line h heq
    cases h with
    | blank h =>
      have hletter : Unicode.isBlank 't' = false := by decide
      simp [IsBlank, Unicode.isBlankText, heq, hletter] at h
    | comment h => simp [IsComment, heq] at h
    | sharedHeader => revert heq; decide
    | ownHeader => revert heq; decide
    | live _ _ _ =>
      have hchars := congrArg String.toList heq
      simp at hchars
    | opening _ _ =>
      have hchars := congrArg String.toList heq
      simp at hchars
  exact ⟨hs, hrendered, fun h => hother _ h rfl⟩

end Template

end ClusterMonitor

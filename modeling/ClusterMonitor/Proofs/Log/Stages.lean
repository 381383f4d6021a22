import ClusterMonitor.Log.Processor
import ClusterMonitor.Proofs.Decode.Record
import ClusterMonitor.Proofs.Log.Conservation
import ClusterMonitor.Proofs.Text.Lines
import ClusterMonitor.Schema.Builtin

/-!
# Processing in two stages

A processor takes lines one at a time and may hold, release or drop a record at each of them. Over a
whole input it does the same as two stages, one after the other: join the lines, then send each
joined record through the declared rules on its own.

* `joinedBy`, `LogSource.JoinsBy` — the first stage, with an aggregator or without.
* `LogSource.record?` — the second stage for one joined record: the declared rules and the labels.
* `Processor.Answers` — what a processor owes for some joined records.
* `Processor.push_answers`, `Processor.processLines_answers` — one line, and one input.
* `Processor.processLines_eq_stages` — any number of inputs, one after another.
* `Processor.processBytes_eq_processLines` — an input of bytes is that of the lines of its text.
-/

namespace ClusterMonitor

/-! ## The first stage -/

/-- The records that lines are joined to; without an aggregator each line is a record. -/
def joinedBy (a? : Option Aggregator) (lines : List String) : List Coalesced :=
  match a? with
  | none => lines.map fun line => ⟨Text.dropCarriageReturn line, 1, false⟩
  | some a => coalesce a lines

/-- How a source joins lines: not at all without a rule for it, else by the first such rule. -/
inductive LogSource.JoinsBy (s : LogSource) : Option Aggregator → Prop where
  | apart (hrule : s.multiLineRule? = none) : JoinsBy s none
  | byFirst {rule : Rule} {a : Aggregator} (hrule : s.multiLineRule? = some rule)
      (ha : Aggregator.ofPattern rule.pattern = .ok a) : JoinsBy s (some a)

/-- One line of the first stage: what is held after it, and the record that it completes. -/
def joinLine (a? : Option Aggregator) (line : String) : Option Aggregator × Option Coalesced :=
  match a? with
  | none => (none, some ⟨Text.dropCarriageReturn line, 1, false⟩)
  | some a => (some (a.push line 0).1, (a.push line 0).2)

/-- An aggregator after the lines have been joined in it, the last record released. -/
def afterJoining (a? : Option Aggregator) (lines : List String) : Option Aggregator :=
  a?.map fun a => (a.run (lines.map (.push · 0) ++ [.flush])).1

/-- No line waits in an aggregator of these settings, or there is no aggregator. What text and time
are left over in it makes no difference. -/
structure AtRest (settings? : Option Aggregator.Settings) (a? : Option Aggregator) : Prop where
  settings : a?.map Aggregator.settings = settings?
  quiet : ∀ a, a? = some a → a.Shows none

/-- An aggregator that lines have been joined in is at rest again. -/
theorem AtRest.afterJoining {settings? : Option Aggregator.Settings} {a? : Option Aggregator}
    (h : AtRest settings? a?) (lines : List String) : AtRest settings? (afterJoining a? lines) := by
  cases a? with
  | none => exact ⟨h.settings, nofun⟩
  | some a =>
    obtain ⟨hsettings, hshows, -⟩ :=
      Aggregator.run_simulates (h.quiet a rfl) (lines.map (.push · 0) ++ [.flush])
    refine ⟨(congrArg some hsettings).trans h.settings, ?_⟩
    rintro b ⟨⟩
    rw [Aggregator.Settings.run_append] at hshows
    exact hshows

/-- Two aggregators at rest join lines to the same records. -/
theorem joinedBy_eq_of_atRest {settings? : Option Aggregator.Settings} {a? b? : Option Aggregator}
    (ha : AtRest settings? a?) (hb : AtRest settings? b?) (lines : List String) :
    joinedBy a? lines = joinedBy b? lines := by
  have hsettings := ha.settings.trans hb.settings.symm
  cases a? with
  | none =>
    cases b? with
    | none => rfl
    | some b => cases hsettings
  | some a =>
    cases b? with
    | none => cases hsettings
    | some b =>
      have hanswers := Aggregator.run_eq_of_shows (ha.quiet a rfl) (hb.quiet b rfl)
        (Option.some.inj hsettings) (lines.map (.push · 0) ++ [.flush])
      exact congrArg (List.filterMap id) hanswers.1

/-- At the end of input the records are what a flush releases. -/
theorem joinedBy_nil (a? : Option Aggregator) :
    joinedBy a? [] = (a?.bind fun a => a.flush.2).toList := by
  cases a? with
  | none => rfl
  | some a => cases h : a.flush.2 <;> simp [joinedBy, coalesce, Aggregator.run, Aggregator.step, h]

/-- The records of some lines are that of the first line, if it completes one, and those of the
rest. -/
theorem joinedBy_cons (a? : Option Aggregator) (line : String) (lines : List String) :
    joinedBy a? (line :: lines) =
      (joinLine a? line).2.toList ++ joinedBy (joinLine a? line).1 lines := by
  cases a? with
  | none => rfl
  | some a =>
    cases h : (a.push line 0).2 <;>
      simp [joinedBy, joinLine, coalesce, Aggregator.run, Aggregator.step, h]

theorem afterJoining_cons (a? : Option Aggregator) (line : String) (lines : List String) :
    afterJoining a? (line :: lines) = afterJoining (joinLine a? line).1 lines := by
  cases a? <;> rfl

/-! ## The second stage -/

/-- What a declared rule leaves of the text of a record. A rule that joins lines leaves all of
it. -/
def Rule.onRecord (text : String) : Rule → Option String
  | .multiLine _ _ => some text
  | .excludeAtMatch _ p => if p.isMatch text then none else some text
  | .includeAtMatch _ p => if p.isMatch text then some text else none
  | .maskSequences _ p placeholder => some (p.expression.replaceAll text placeholder)

/-- The record that a joined one becomes, unless a rule drops it: the declared rules act in order,
each on the text that the one before it has left, and the labels of the source are attached. -/
def LogSource.record? (s : LogSource) (c : Coalesced) : Option LogRecord :=
  (s.rules.foldlM Rule.onRecord c.content).map fun content =>
    ⟨content, c.lineCount, c.truncated, s.source, s.service, s.tags⟩

theorem RecordRule.apply_of_ofRule? {rule : Rule} {r : RecordRule} (h : ofRule? rule = some r)
    (text : String) : r.apply text = Rule.onRecord text rule := by
  cases rule <;> cases h <;> rfl

theorem Rule.onRecord_of_ofRule?_eq_none {rule : Rule} (h : RecordRule.ofRule? rule = none)
    (text : String) : Rule.onRecord text rule = some text := by
  cases rule <;> cases h
  rfl

/-- A processor keeps the declared rules but those that join lines, which do nothing to records. -/
theorem RecordRule.applyAll_filterMap_ofRule? (rules : List Rule) (text : String) :
    applyAll (rules.filterMap ofRule?) text = rules.foldlM Rule.onRecord text := by
  induction rules generalizing text with
  | nil => rfl
  | cons rule rest ih =>
    rw [List.foldlM_cons]
    cases h : ofRule? rule with
    | none =>
      rw [List.filterMap_cons_none h, Rule.onRecord_of_ofRule?_eq_none h]
      exact ih text
    | some r =>
      rw [List.filterMap_cons_some h, applyAll, apply_of_ofRule? h]
      exact congrArg _ (funext ih)

/-! ## A processor at work -/

namespace Processor

variable {s : LogSource} {a? b? : Option Aggregator} {p : Processor}

/-- The processor has the rules and the labels of the source, and this aggregator. -/
structure Serves (p : Processor) (s : LogSource) (a? : Option Aggregator) : Prop where
  aggregator : p.aggregator = a?
  rules : p.rules = s.rules.filterMap RecordRule.ofRule?
  source : p.source = s.source
  service : p.service = s.service
  tags : p.tags = s.tags

/-- With another aggregator it still serves the source. -/
theorem Serves.withAggregator (h : p.Serves s a?) (a : Aggregator) :
    (p.withAggregator a).Serves s (some a) :=
  ⟨rfl, h.rules, h.source, h.service, h.tags⟩

/-- What a processor that has dropped so many records before owes for some joined ones: those that
the rules let through, while it counts the others and goes on to serve the source. -/
structure Answers (s : LogSource) (a? : Option Aggregator) (before : Nat)
    (joined : List Coalesced) (answer : Processor × List LogRecord) : Prop where
  serves : answer.1.Serves s a?
  records : answer.2 = joined.filterMap s.record?
  dropped : answer.1.dropped + answer.2.length = before + joined.length

theorem answers_nil (h : p.Serves s a?) : Answers s a? p.dropped [] (p, []) := ⟨h, rfl, rfl⟩

theorem Answers.append {first last : List Coalesced} {answer later : Processor × List LogRecord}
    {before : Nat}
    (h : Answers s a? before first answer) (hlater : Answers s b? answer.1.dropped last later) :
    Answers s b? before (first ++ last) (later.1, answer.2 ++ later.2) := by
  refine ⟨hlater.serves, ?_, ?_⟩
  · rw [List.filterMap_append, h.records, hlater.records]
  · have hfirst := h.dropped
    have hlast := hlater.dropped
    simp only [List.length_append]
    omega

/-- One record through the rules. -/
theorem apply_answers (h : p.Serves s a?) (c : Coalesced) :
    Answers s a? p.dropped [c] ((p.apply c).1, (p.apply c).2.toList) := by
  have hrules := RecordRule.applyAll_filterMap_ofRule? s.rules c.content
  rw [← h.rules] at hrules
  cases hleft : s.rules.foldlM Rule.onRecord c.content with
  | none =>
    have happly : p.apply c = ({ p with dropped := p.dropped + 1 }, none) := by
      simp [apply, hrules, hleft]
    have hrecord : s.record? c = none := by
      simp [LogSource.record?, hleft]
    rw [happly]
    exact ⟨⟨h.aggregator, h.rules, h.source, h.service, h.tags⟩, by simp [hrecord], rfl⟩
  | some content =>
    have happly : p.apply c =
        (p, some ⟨content, c.lineCount, c.truncated, s.source, s.service, s.tags⟩) := by
      simp [apply, hrules, hleft, h.source, h.service, h.tags]
    have hrecord : s.record? c =
        some ⟨content, c.lineCount, c.truncated, s.source, s.service, s.tags⟩ := by
      simp [LogSource.record?, hleft]
    rw [happly]
    exact ⟨h, by simp [hrecord], rfl⟩

theorem applyReleased_answers (h : p.Serves s a?) (released : Option Coalesced) :
    Answers s a? p.dropped released.toList
      ((p.applyReleased released).1, (p.applyReleased released).2.toList) := by
  cases released with
  | none => exact answers_nil h
  | some c => exact apply_answers h c

/-- One line: it may complete a record, which then goes through the rules at once. -/
theorem push_answers (h : p.Serves s a?) (line : String) :
    Answers s (joinLine a? line).1 p.dropped (joinLine a? line).2.toList
      ((p.push line).1, (p.push line).2.toList) := by
  have haggregator := h.aggregator
  cases a? with
  | none =>
    have hpush : p.push line = p.apply ⟨Text.dropCarriageReturn line, 1, false⟩ := by
      simp [push, haggregator]
    rw [hpush]
    exact apply_answers h _
  | some a =>
    have hpush : p.push line =
        (p.withAggregator (a.push line 0).1).applyReleased (a.push line 0).2 := by
      simp [push, haggregator, withAggregator]
    rw [hpush]
    exact applyReleased_answers (h.withAggregator _) _

/-- The end of input: what is held goes through the rules, and nothing is held any more. -/
theorem finish_answers (h : p.Serves s a?) :
    Answers s (afterJoining a? []) p.dropped (joinedBy a? []) (p.finish.1, p.finish.2.toList) := by
  have haggregator := h.aggregator
  rw [joinedBy_nil]
  cases a? with
  | none =>
    have hfinish : p.finish = (p, none) := by
      simp [finish, haggregator]
    rw [hfinish]
    exact answers_nil h
  | some a =>
    have hfinish : p.finish = (p.withAggregator a.flush.1).applyReleased a.flush.2 := by
      simp [finish, haggregator, withAggregator]
    rw [hfinish]
    exact applyReleased_answers (h.withAggregator _) _

/-- A whole input: by induction on the lines, what is still held being part of the claim. -/
theorem processLines_answers (h : p.Serves s a?) (lines : List String) :
    Answers s (afterJoining a? lines) p.dropped (joinedBy a? lines) (p.processLines lines) := by
  induction lines generalizing p a? with
  | nil => exact finish_answers h
  | cons line rest ih =>
    have hline := push_answers h line
    have hrest := ih hline.serves
    rw [joinedBy_cons, afterJoining_cons]
    exact hline.append hrest

/-! ## Input after input -/

/-- The processor after some inputs, each taken in whole. -/
def after (p : Processor) (inputs : List (List String)) : Processor :=
  inputs.foldl (fun p lines => (p.processLines lines).1) p

/-- A processor serves its source after any inputs, with an aggregator that is at rest. -/
theorem after_serves {settings? : Option Aggregator.Settings} (h : p.Serves s a?)
    (hrest : AtRest settings? a?) (inputs : List (List String)) :
    ∃ b?, (p.after inputs).Serves s b? ∧ AtRest settings? b? := by
  induction inputs generalizing p a? with
  | nil => exact ⟨a?, h, hrest⟩
  | cons lines rest ih => exact ih (processLines_answers h lines).serves (hrest.afterJoining lines)

/-- The processor of a source has the aggregator that the source asks for, with nothing pending. -/
theorem serves_of_ofSource (h : ofSource s = .ok p) :
    ∃ a?, s.JoinsBy a? ∧ p.Serves s a? ∧ ∀ a, a? = some a → a.hasPending = false := by
  unfold ofSource at h
  split at h
  · rename_i hrule
    cases h
    exact ⟨none, .apart hrule, ⟨rfl, rfl, rfl, rfl, rfl⟩, by simp⟩
  · rename_i rule hrule
    obtain ⟨a, ha, rfl⟩ := Decode.map_eq_ok_iff.mp h
    refine ⟨some a, .byFirst hrule ha, ⟨rfl, rfl, rfl, rfl, rfl⟩, ?_⟩
    obtain ⟨start, -, rfl⟩ := Decode.map_eq_ok_iff.mp ha
    rintro b ⟨⟩
    rfl

/-- Of the rules that join lines the processor of a source sees the first one only, and not where it
stands. -/
theorem ofSource_congr_rules {rules : List Rule}
    (hrecords : rules.filter (fun r => !r.isMultiLine) = s.rules.filter fun r => !r.isMultiLine)
    (hfirst : rules.find? Rule.isMultiLine = s.rules.find? Rule.isMultiLine) :
    ofSource { s with rules } = ofSource s := by
  have hkept (rules : List Rule) : rules.filterMap RecordRule.ofRule? =
      (rules.filter fun r => !r.isMultiLine).filterMap RecordRule.ofRule? := by
    rw [List.filterMap_filter]
    refine List.filterMap_congr fun r _ => ?_
    cases r <;> rfl
  have hrules : rules.filterMap RecordRule.ofRule? = s.rules.filterMap RecordRule.ofRule? := by
    rw [hkept rules, hkept s.rules, hrecords]
  simp only [ofSource, LogSource.multiLineRule?, hfirst, hrules]

/-- A processor is coalescing followed by the record rules. Whatever inputs it has taken in before,
it gives for an input the joined records, from an aggregator that holds nothing, which the declared
rules let through; it counts the others as dropped. Rules that join lines count only by the first of
them, and not by their places. -/
theorem processLines_eq_stages (s : LogSource) (p : Processor) (hp : ofSource s = .ok p)
    (put : Option Aggregator) (hput : ∀ a, put = some a → a.hasPending = false) :
    (∃ own, s.JoinsBy own ∧ ∀ (earlier : List (List String)) (lines : List String),
      let before := (put.elim p p.withAggregator).after earlier
      let joined := joinedBy (put.or own) lines
      let answer := before.processLines lines
      answer.2 = joined.filterMap s.record? ∧
        answer.1.dropped + answer.2.length = before.dropped + joined.length) ∧
    ∀ rules : List Rule,
      rules.filter (fun r => !r.isMultiLine) = s.rules.filter (fun r => !r.isMultiLine) →
      rules.find? Rule.isMultiLine = s.rules.find? Rule.isMultiLine →
      ofSource { s with rules } = ofSource s := by
  obtain ⟨own, hjoins, hserves, hown⟩ := serves_of_ofSource hp
  refine ⟨⟨own, hjoins, ?_⟩, fun rules => ofSource_congr_rules⟩
  intro earlier lines before joined answer
  -- what the processor starts with is at rest, and so it is after each input
  have hrest : AtRest ((put.or own).map Aggregator.settings) (put.or own) := by
    refine ⟨rfl, fun a ha => ?_⟩
    have hquiet : a.hasPending = false := by
      cases put with
      | none => exact hown a ha
      | some b => exact hput a ha
    exact .nothing (by simpa [Aggregator.hasPending] using hquiet)
  have hstart : (put.elim p p.withAggregator).Serves s (put.or own) := by
    cases put with
    | none => exact hserves
    | some b => exact hserves.withAggregator b
  obtain ⟨left, hbefore, hleft⟩ := after_serves hstart hrest earlier
  have hanswer := processLines_answers hbefore lines
  rw [joinedBy_eq_of_atRest hleft hrest] at hanswer
  exact ⟨hanswer.records, hanswer.dropped⟩

/-- The second of two inputs, with a limit of six bytes: a record is cut, and the last one is
dropped for the text that the mask before the rule has left of it. -/
theorem processLines_eq_stages_second_input :
    let quiet : Pattern := ⟨"<x", (Regex.Expression.ofText? "<x").getD default⟩
    let s : LogSource :=
      { kind := .file, path := some "/log", service := some "ambari", tags := ["a"]
        rules := [.maskSequences "level" Schema.bracketPattern "<",
          .multiLine "start" Schema.bracketPattern, .excludeAtMatch "quiet" quiet] }
    let a : Aggregator := { start := Schema.bracketPattern.expression, maxBytes := 6 }
    let lines := ["[EL 1", "x\r", "[ELxx"]
    ∃ p, ofSource s = .ok p ∧ a.hasPending = false ∧
      let before := (p.withAggregator a).after [["y", "[EL"]]
      (before.processLines lines).2 =
        [⟨"< 1", 1, true, none, some "ambari", ["a"]⟩,
          ⟨"x", 1, false, none, some "ambari", ["a"]⟩] ∧
      (before.processLines lines).1.dropped = before.dropped + 1 := by
  intro quiet s a lines
  obtain ⟨p, hp⟩ : ∃ p, ofSource s = .ok p := ⟨_, rfl⟩
  have ha : ∀ b, some a = some b → b.hasPending = false := by
    rintro b ⟨⟩
    rfl
  obtain ⟨⟨own, -, hanswer⟩, -⟩ := processLines_eq_stages s p hp (some a) ha
  obtain ⟨hrecords, hdropped⟩ := hanswer [["y", "[EL"]] lines
  have hjoined : joinedBy (some a) lines =
      [⟨"[EL 1", 1, true⟩, ⟨"x", 1, false⟩, ⟨"[ELxx", 1, false⟩] := rfl
  simp only [Option.elim_some, Option.some_or, hjoined] at hrecords hdropped
  refine ⟨p, hp, rfl, hrecords, ?_⟩
  -- two of the three joined records are returned
  rw [hrecords] at hdropped
  exact Nat.add_right_cancel hdropped

/-! ## Inputs of bytes -/

/-- Reading bytes line by line takes in the lines between their line feeds, each decoded on its own: by
induction on the reading, which cuts off one line at a time. -/
theorem processBytes_eq_lines (p : Processor) (bytes : List UInt8) :
    p.processBytes bytes =
      p.processLines
        ((Text.linesBetween 0x0A bytes).map fun line => String.ofList (Text.decodeLossy line)) := by
  fun_induction processBytes p bytes with
  | case1 p bytes _ hread q last hfinish =>
    have hlines : Text.linesBetween (0x0A : UInt8) [] = [] := rfl
    rw [Text.eq_nil_of_readUntil hread, hlines, List.map_nil, processLines, hfinish]
  | case2 p bytes b piece rest hread line q r hpush q' rs hrest ih =>
    rw [Text.linesBetween_of_readUntil hread, List.map_cons, processLines, hpush]
    rw [hrest] at ih
    simp only [← ih]

/-- Bytes are read line by line and each line is decoded on its own. It is the same to decode all of
them and to cut the text: in every state the same records are returned, and the same state is left, the
number of dropped records included. -/
theorem processBytes_eq_processLines (p : Processor) (bytes : List UInt8) :
    (Text.linesBetween 0x0A bytes).map Text.decodeLossy =
        Text.linesBetween '\n' (Text.decodeLossy bytes) ∧
      p.processBytes bytes =
        p.processLines
          ((Text.linesBetween '\n' (Text.decodeLossy bytes)).map String.ofList) := by
  have hlines := Text.linesBetween_decodeLossy bytes
  refine ⟨hlines.symm, ?_⟩
  rw [processBytes_eq_lines, hlines, List.map_map]
  rfl

end Processor

end ClusterMonitor

import ClusterMonitor.Log.Aggregator
import ClusterMonitor.Log.Source
import ClusterMonitor.Text.Utf8

/-!
# Processing the lines of a source

Lines are joined to records first; the records then go, one by one, through the rules that drop or
mask them, in the order in which the source declares these.

* `RecordRule.applyAll` — the rules on one text: the text that is left, or nothing if it is dropped.
* `Processor.push` and `Processor.finish` — one line, and the end of input.
* `Processor.processLines` and `Processor.processBytes` — a whole input, as lines or as bytes.
-/

namespace ClusterMonitor

/-- A record as it leaves the pipeline. -/
structure LogRecord where
  content : String
  lineCount : Nat
  truncated : Bool
  source : Option String
  service : Option String
  tags : List String
deriving DecidableEq, Repr

/-- The document form of a record; what is false, absent or empty is left out. -/
def LogRecord.toValue (r : LogRecord) : Value :=
  .ofPairs <|
    [("content", Value.string r.content), ("line_count", .int r.lineCount)] ++
    (if r.truncated then [("truncated", Value.bool true)] else []) ++
    (r.source.map fun s => ("source", Value.string s)).toList ++
    (r.service.map fun s => ("service", Value.string s)).toList ++
    (if r.tags.isEmpty then [] else [("tags", Value.ofStrings r.tags)])

/-- A rule on whole records. -/
inductive RecordRule where
  | exclude (e : Regex.Expression)
  | include (e : Regex.Expression)
  | mask (e : Regex.Expression) (placeholder : String)

namespace RecordRule

/-- The record rule of a processing rule, unless it joins lines. -/
def ofRule? : Rule → Option RecordRule
  | .multiLine _ _ => none
  | .excludeAtMatch _ p => some (.exclude p.expression)
  | .includeAtMatch _ p => some (.include p.expression)
  | .maskSequences _ p placeholder => some (.mask p.expression placeholder)

/-- One rule on a text. -/
def apply (text : String) : RecordRule → Option String
  | .exclude e => if e.isMatch text then none else some text
  | .include e => if e.isMatch text then some text else none
  | .mask e placeholder => some (e.replaceAll text placeholder)

/-- Rules on a text, each on what the one before has left. -/
def applyAll : List RecordRule → String → Option String
  | [], text => some text
  | rule :: rules, text => (rule.apply text).bind (applyAll rules)

end RecordRule

/-- The state of processing one source. -/
structure Processor where
  aggregator : Option Aggregator := none
  rules : List RecordRule := []
  source : Option String := none
  service : Option String := none
  tags : List String := []
  /-- How many records the rules have dropped. -/
  dropped : Nat := 0

namespace Processor

/-- Every line is a record, and nothing is dropped. -/
def passthrough : Processor := {}

/-- The processor of a source. -/
def ofSource (s : LogSource) : Except LogError Processor :=
  let make (aggregator : Option Aggregator) : Processor :=
    { aggregator, rules := s.rules.filterMap RecordRule.ofRule?
      source := s.source, service := s.service, tags := s.tags }
  match s.multiLineRule? with
  | none => .ok (make none)
  | some rule => (Aggregator.ofPattern rule.pattern).map fun a => make (some a)

/-- The processor with another aggregator, for instance one with other limits. -/
def withAggregator (p : Processor) (a : Aggregator) : Processor :=
  { p with aggregator := some a }

/-- Sends a joined record through the rules. -/
def apply (p : Processor) (c : Coalesced) : Processor × Option LogRecord :=
  match RecordRule.applyAll p.rules c.content with
  | none => ({ p with dropped := p.dropped + 1 }, none)
  | some content =>
    (p, some ⟨content, c.lineCount, c.truncated, p.source, p.service, p.tags⟩)

/-- Sends on what the aggregator has released, if it has. -/
def applyReleased (p : Processor) (released : Option Coalesced) : Processor × Option LogRecord :=
  match released with
  | none => (p, none)
  | some c => p.apply c

/-- Takes a line in. -/
def push (p : Processor) (line : String) : Processor × Option LogRecord :=
  match p.aggregator with
  | none => p.apply ⟨Text.dropCarriageReturn line, 1, false⟩
  | some a =>
    let (a, released) := a.push line 0
    applyReleased { p with aggregator := some a } released

/-- Releases a record that waits for further lines. -/
def finish (p : Processor) : Processor × Option LogRecord :=
  match p.aggregator with
  | none => (p, none)
  | some a =>
    let (a, released) := a.flush
    applyReleased { p with aggregator := some a } released

/-- Takes lines in, and releases the last record. -/
def processLines (p : Processor) : List String → Processor × List LogRecord
  | [] =>
    let (p, last) := p.finish
    (p, last.toList)
  | line :: rest =>
    let (p, r) := p.push line
    let (p, rs) := processLines p rest
    (p, r.toList ++ rs)

/-- Reads bytes line by line to their end: each line is taken in as it is read, decoded on its own, and
the last record is released where nothing is left to read. -/
def processBytes (p : Processor) (bytes : List UInt8) : Processor × List LogRecord :=
  match _hread : Text.readUntil 0x0A bytes with
  | ([], _) =>
    let (p, last) := p.finish
    (p, last.toList)
  | (b :: piece, rest) =>
    let line := Text.dropSeparator 0x0A (b :: piece)
    let (p, r) := p.push (String.ofList (Text.decodeLossy line))
    let (p, rs) := processBytes p rest
    (p, r.toList ++ rs)
termination_by bytes.length
decreasing_by
  have hlength := congrArg List.length (Text.readUntil_append 0x0A bytes)
  simp only [_hread, List.length_append, List.length_cons] at hlength
  omega

end Processor

end ClusterMonitor

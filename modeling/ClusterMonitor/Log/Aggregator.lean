import ClusterMonitor.Log.Pattern
import ClusterMonitor.Text.Lines

/-!
# Joining lines to records

A line that the start pattern matches begins a new record; every other line continues the record
under way. Lines before the first match make a record of their own. A record that would grow beyond
the size limit is cut and continued in the next one.

* `Aggregator` — the limits, and the text and the number of lines of the record under way.
* `Aggregator.push`, `Aggregator.poll`, `Aggregator.flush` — a further line, the passing of time, the
  end of input; each gives the record that it completes, if any.
* `Aggregator.step` and `Aggregator.run` — the three as events, one and many.
* `coalesce` — the records of a list of lines, all released at the end.
-/

namespace ClusterMonitor

/-- A completed record. -/
structure Coalesced where
  content : String
  lineCount : Nat
  /-- Cut at the size limit; the next record continues it. -/
  truncated : Bool
deriving DecidableEq, Repr

/-- The largest record that is kept in one piece unless another limit is set. -/
def defaultRecordBytes : Nat := 256 * 1024

/-- Joins lines to records. Times are counts of some unit that both events and timeouts use. -/
structure Aggregator where
  /-- Matches the lines that begin a record. -/
  start : Regex.Expression
  /-- The text of the record under way. -/
  buffer : String := ""
  /-- The number of lines in the buffer; only where it is 0 no record is under way. -/
  lineCount : Nat := 0
  maxBytes : Nat := defaultRecordBytes
  /-- How long a record may wait for its next line. -/
  timeout : Option Nat := none
  /-- When the last line came, be the record that it went to under way or not. -/
  lastAppend : Option Nat := none

namespace Aggregator

/-- An aggregator whose records begin at lines that start with a match. -/
def ofPattern (p : Pattern) : Except LogError Aggregator :=
  p.anchored.map fun start => { start }

/-- The aggregator with a size limit of at least one byte. -/
def withMaxBytes (a : Aggregator) (n : Nat) : Aggregator := { a with maxBytes := max n 1 }

def withTimeout (a : Aggregator) (timeout : Nat) : Aggregator := { a with timeout := some timeout }

def hasPending (a : Aggregator) : Bool := 0 < a.lineCount

/-- Keeps the time at which a line has come. -/
def stamp (a : Aggregator) (now : Nat) : Aggregator := { a with lastAppend := some now }

/-- Puts a line into the buffer as the only one. -/
def begin (a : Aggregator) (line : String) : Aggregator :=
  { a with buffer := line, lineCount := 1 }

/-- Puts a line into the buffer behind the others. -/
def append (a : Aggregator) (line : String) : Aggregator :=
  { a with buffer := a.buffer.push '\n' ++ line, lineCount := a.lineCount + 1 }

/-- Takes the record under way out, if there is one. -/
def take (a : Aggregator) (truncated : Bool) : Aggregator × Option Coalesced :=
  if !a.hasPending then (a, none)
  else ({ a with buffer := "", lineCount := 0 }, some ⟨a.buffer, a.lineCount, truncated⟩)

/-- Takes a line in; gives the record that the line completes. -/
def push (a : Aggregator) (line : String) (now : Nat) : Aggregator × Option Coalesced :=
  let line := Text.dropCarriageReturn line
  let a := a.stamp now
  if !a.hasPending then (a.begin line, none)
  else if a.start.isMatch line then
    let (a, completed) := a.take false
    (a.begin line, completed)
  else if a.maxBytes < a.buffer.utf8ByteSize + 1 + line.utf8ByteSize then
    let (a, completed) := a.take true
    (a.begin line, completed)
  else (a.append line, none)

/-- Releases the record under way. -/
def flush (a : Aggregator) : Aggregator × Option Coalesced := a.take false

/-- Releases the record under way if it has waited for as long as the timeout. -/
def poll (a : Aggregator) (now : Nat) : Aggregator × Option Coalesced :=
  match a.timeout, a.lastAppend with
  | some timeout, some last =>
    if a.hasPending ∧ timeout ≤ now - last then a.flush else (a, none)
  | _, _ => (a, none)

/-- What can happen to an aggregator. -/
inductive Event where
  | push (line : String) (now : Nat)
  | poll (now : Nat)
  | flush
deriving DecidableEq, Repr

/-- One event. -/
def step (a : Aggregator) : Event → Aggregator × Option Coalesced
  | .push line now => a.push line now
  | .poll now => a.poll now
  | .flush => a.flush

/-- Events one after another; gives the record that each completes. -/
def run (a : Aggregator) : List Event → Aggregator × List (Option Coalesced)
  | [] => (a, [])
  | e :: rest =>
    let (a, r) := a.step e
    let (a, rs) := run a rest
    (a, r :: rs)

end Aggregator

/-- The records of some lines, the last one released at the end. -/
def coalesce (a : Aggregator) (lines : List String) : List Coalesced :=
  ((a.run (lines.map (.push · 0) ++ [.flush])).2).filterMap id

end ClusterMonitor

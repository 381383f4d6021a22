import ClusterMonitor.Proofs.Log.Waiting
import Mathlib.Data.List.Forall2
import Mathlib.Algebra.BigOperators.Group.List.Basic
import Mathlib.Algebra.Ring.Nat

/-!
# Joining loses no line

The lines that wait are the state that matters: an event either lets them grow by the line that it
pushes, or makes one record of all of them. Hence the records of a run, with the lines that wait in
the end, are the pushed lines cut into blocks. It is shown of the lists of waiting lines first, and
holds of an aggregator because its text and its counter follow them.

* `Coalesced.Holds` — a record is made of one block of lines.
* `Aggregator.Settings.step_blocks` — what one event does to the waiting lines.
* `Aggregator.Settings.run_blocks` — what a run does to them, by induction on its events.
* `Aggregator.run_flush_partition` — a run that ends with a flush cuts the pushed lines into blocks,
  one for each record, in order.
-/

namespace ClusterMonitor

namespace Text

/-- The second text is the first one without the carriage return at its end, if there is one. -/
def DropsReturn (line kept : String) : Prop :=
  line = kept ++ "\r" ∨ (kept = line ∧ ∀ s, line ≠ s ++ "\r")

/-- A line is kept without the carriage return at its end. -/
theorem dropsReturn_dropCarriageReturn (line : String) :
    DropsReturn line (dropCarriageReturn line) := by
  unfold dropCarriageReturn
  split
  · rename_i rest h
    left
    have hline : line.toList = rest.reverse ++ ['\r'] := by
      rw [← List.reverse_reverse line.toList, h, List.reverse_cons]
    apply String.toList_inj.mp
    simp [hline]
  · rename_i h
    right
    refine ⟨rfl, fun s hs => h s.toList.reverse ?_⟩
    simp [hs]

theorem dropsReturn_map (lines : List String) :
    List.Forall₂ DropsReturn lines (lines.map dropCarriageReturn) := by
  rw [List.forall₂_map_right_iff, List.forall₂_same]
  intro line _
  exact dropsReturn_dropCarriageReturn line

end Text

/-- The record is made of exactly these lines: at least one of them, joined by line feeds. -/
structure Coalesced.Holds (r : Coalesced) (block : List String) : Prop where
  nonempty : block ≠ []
  content : r.content = "\n".intercalate block
  lineCount : r.lineCount = block.length

/-- The record of waiting lines is made of them. -/
theorem Pending.complete_holds (p : Pending) (truncated : Bool) :
    (p.complete truncated).Holds p.lines :=
  ⟨p.lines_ne_nil, rfl, rfl⟩

/-- The counts of the records add up to the number of lines in their blocks. -/
theorem sum_lineCount_of_holds {records : List Coalesced} {blocks : List (List String)}
    (h : List.Forall₂ Coalesced.Holds records blocks) :
    (records.map (·.lineCount)).sum = blocks.flatten.length := by
  induction h with
  | nil => rfl
  | cons hr _ ih => simp [hr.lineCount, ih]

namespace Aggregator

/-- The line that an event pushes, as it was given. -/
def Event.line? : Event → Option String
  | .push line _ => some line
  | .poll _ => none
  | .flush => none

/-- The lines that events push, in order. -/
def pushed (events : List Event) : List String := events.filterMap Event.line?

/-- The lines that events push, as the aggregator keeps them. -/
def kept (events : List Event) : List String := (pushed events).map Text.dropCarriageReturn

/-- The lines that are kept of a run are that of its first event and those of the rest. -/
theorem kept_cons (e : Event) (events : List Event) :
    kept (e :: events) = kept [e] ++ kept events := by
  cases e <;> rfl

namespace Settings

open Pending (held)

/-! ## One event -/

/-- A line waits after its push, alone if it completes a record. -/
theorem push_blocks (s : Settings) (waiting : Option Pending) (line : String) (now : Nat) :
    ∃ blocks, List.Forall₂ Coalesced.Holds (s.push waiting line now).2.toList blocks ∧
      blocks.flatten ++ held (s.push waiting line now).1 =
        held waiting ++ [Text.dropCarriageReturn line] := by
  cases waiting with
  | none => exact ⟨[], by simp [push], by simp [push, held]⟩
  | some p =>
    by_cases hstart : s.start.isMatch (Text.dropCarriageReturn line)
    · -- the line begins a record, and what waited leaves
      rw [push_of_start hstart]
      exact ⟨[p.lines], by simpa using p.complete_holds false, by simp [held]⟩
    · by_cases hfull :
        s.maxBytes < p.content.utf8ByteSize + 1 + (Text.dropCarriageReturn line).utf8ByteSize
      · -- the record is full, and what waited leaves
        rw [push_of_full hstart hfull]
        exact ⟨[p.lines], by simpa using p.complete_holds true, by simp [held]⟩
      · rw [push_of_room hstart hfull]
        exact ⟨[], by simp, by simp [held]⟩

/-- A flush makes a record of all that waits. -/
theorem flush_blocks (waiting : Option Pending) :
    ∃ blocks, List.Forall₂ Coalesced.Holds (flush waiting).2.toList blocks ∧
      blocks.flatten = held waiting := by
  cases waiting with
  | none => exact ⟨[], by simp [flush], rfl⟩
  | some p => exact ⟨[p.lines], by simpa [flush] using p.complete_holds false, by simp [held]⟩

/-- Nothing waits after a flush. -/
@[simp] theorem held_flush (waiting : Option Pending) : held (flush waiting).1 = [] := rfl

/-- The blocks that an event releases, followed by what waits after it, are what waited before it,
followed by what it pushes. -/
theorem step_blocks (s : Settings) (waiting : Option Pending) (e : Event) :
    ∃ blocks, List.Forall₂ Coalesced.Holds (s.step waiting e).2.toList blocks ∧
      blocks.flatten ++ held (s.step waiting e).1 = held waiting ++ kept [e] := by
  cases e with
  | push line now => exact push_blocks s waiting line now
  | poll now =>
    -- no line is pushed, and either nothing or all leaves
    rcases poll_eq s waiting now with h | h
    · exact ⟨[], by simp [step, h], by simp [step, h, kept, pushed, Event.line?]⟩
    · obtain ⟨blocks, hblocks, hflat⟩ := flush_blocks waiting
      exact ⟨blocks, by simpa [step, h] using hblocks,
        by simp [step, h, hflat, kept, pushed, Event.line?]⟩
  | flush =>
    obtain ⟨blocks, hblocks, hflat⟩ := flush_blocks waiting
    exact ⟨blocks, by simpa [step] using hblocks,
      by simp [step, hflat, kept, pushed, Event.line?]⟩

/-! ## A run -/

/-- The blocks that a run releases, followed by what waits after it, are what waited before it,
followed by what it pushes. -/
theorem run_blocks (s : Settings) (waiting : Option Pending) (events : List Event) :
    ∃ blocks, List.Forall₂ Coalesced.Holds (s.records waiting events) blocks ∧
      blocks.flatten ++ held (s.run waiting events).1 = held waiting ++ kept events := by
  induction events generalizing waiting with
  | nil => exact ⟨[], List.Forall₂.nil, by simp [run, kept, pushed]⟩
  | cons e events ih =>
    obtain ⟨now, hnow, hnowFlat⟩ := step_blocks s waiting e
    obtain ⟨later, hlater, hlaterFlat⟩ := ih (s.step waiting e).1
    refine ⟨now ++ later, ?_, ?_⟩
    · rw [records_cons]
      exact List.rel_append hnow hlater
    · calc (now ++ later).flatten ++ held (s.run waiting (e :: events)).1
          = now.flatten ++ (later.flatten ++ held (s.run (s.step waiting e).1 events).1) := by
            simp [run]
        _ = now.flatten ++ held (s.step waiting e).1 ++ kept events := by
            rw [hlaterFlat, List.append_assoc]
        _ = held waiting ++ kept (e :: events) := by
            rw [hnowFlat, kept_cons e events, List.append_assoc]

end Settings

/-- The records of a run that ends with a flush cut the pushed lines into non-empty blocks, one for
each record and in order: the text of a record is its block joined by line feeds, and its count the
number of lines in the block. This holds whatever the start pattern, the limits and the times are. -/
theorem run_flush_partition (start : Regex.Expression) (maxBytes : Nat) (timeout : Option Nat)
    (events : List Event) :
    let records := ({ start, maxBytes, timeout } : Aggregator).records (events ++ [.flush])
    ∃ blocks : List (List String),
      List.Forall₂ Text.DropsReturn (pushed events) blocks.flatten ∧
      List.Forall₂ Coalesced.Holds records blocks ∧
      (records.map (·.lineCount)).sum = (pushed events).length := by
  intro records
  have hrecords : records = Settings.records ⟨start, maxBytes, timeout⟩ none (events ++ [.flush]) :=
    records_of_shows (shows_fresh start maxBytes timeout) _
  obtain ⟨blocks, hblocks, hflat⟩ :=
    Settings.run_blocks ⟨start, maxBytes, timeout⟩ none (events ++ [.flush])
  rw [← hrecords] at hblocks
  have hheld :
      Pending.held (Settings.run ⟨start, maxBytes, timeout⟩ none (events ++ [.flush])).1 = [] := by
    rw [Settings.run_append]
    simp [Settings.run, Settings.step]
  have hkept : kept (events ++ [.flush]) = kept events := by
    simp [kept, pushed, Event.line?]
  have hlines : blocks.flatten = kept events := by
    rw [hheld, hkept] at hflat
    simpa [Pending.held] using hflat
  refine ⟨blocks, ?_, hblocks, ?_⟩
  · rw [hlines]
    exact Text.dropsReturn_map (pushed events)
  · rw [sum_lineCount_of_holds hblocks, hlines]
    simp [kept]

end Aggregator

end ClusterMonitor

import ClusterMonitor.Log.Aggregator
import Mathlib.Tactic.SplitIfs

/-!
# The lines that wait

An aggregator keeps a text, a counter and a time, and changes each of them in its own place. What the
three mean together is a list of lines that wait for the record under way to be completed. The events
are told a second time over such lists, and the aggregator is shown to do what the lists tell, event
by event. Where no line waits, text and time are left over from earlier lines; nothing reads them.

* `Pending` — the lines that wait, with the time of the newest.
* `Aggregator.Settings.step`, `Aggregator.Settings.run` — the events over waiting lines.
* `Aggregator.Shows` — what text, counter and time say of the waiting lines.
* `Aggregator.step_simulates` and `Aggregator.run_simulates` — one event and a run of them.
* `Aggregator.run_eq_of_shows` — aggregators of the same settings answer alike if they show the same
  lines, whatever is left over in them.
* `Aggregator.lastAppend_run` — the time that is kept is that of the last push.
-/

namespace ClusterMonitor

/-- The lines of a record under way, at least one, with the time of the newest. -/
structure Pending where
  earlier : List String
  newest : String
  since : Nat
deriving DecidableEq, Repr

namespace Pending

/-- The lines in the order in which they came. -/
def lines (p : Pending) : List String := p.earlier ++ [p.newest]

/-- The lines joined by line feeds. -/
def content (p : Pending) : String := "\n".intercalate p.lines

/-- The record of the lines. -/
def complete (p : Pending) (truncated : Bool) : Coalesced :=
  ⟨p.content, p.lines.length, truncated⟩

/-- The line alone. -/
def first (line : String) (now : Nat) : Pending := ⟨[], line, now⟩

/-- The lines with one more behind them. -/
def append (p : Pending) (line : String) (now : Nat) : Pending := ⟨p.lines, line, now⟩

theorem lines_ne_nil (p : Pending) : p.lines ≠ [] := by
  simp [lines]

@[simp] theorem lines_first (line : String) (now : Nat) : (first line now).lines = [line] := rfl

@[simp] theorem lines_append (p : Pending) (line : String) (now : Nat) :
    (p.append line now).lines = p.lines ++ [line] := rfl

/-- The waiting lines, none if no record is under way. -/
def held (waiting : Option Pending) : List String := (waiting.map lines).getD []

end Pending

/-- What an aggregator is set to. -/
structure Aggregator.Settings where
  start : Regex.Expression
  maxBytes : Nat
  timeout : Option Nat

namespace Aggregator.Settings

/-- A line comes to the waiting ones. -/
def push (s : Settings) (waiting : Option Pending) (line : String) (now : Nat) :
    Option Pending × Option Coalesced :=
  let line := Text.dropCarriageReturn line
  match waiting with
  | none => (some (.first line now), none)
  | some p =>
    if s.start.isMatch line then (some (.first line now), some (p.complete false))
    else if s.maxBytes < p.content.utf8ByteSize + 1 + line.utf8ByteSize then
      (some (.first line now), some (p.complete true))
    else (some (p.append line now), none)

section Push

variable {s : Settings} {p : Pending} {line : String} {now : Nat}

/-- A line whose start matches is the only one to wait, and the record of the others is complete. -/
theorem push_of_start (hstart : s.start.isMatch (Text.dropCarriageReturn line) = true) :
    s.push (some p) line now =
      (some (.first (Text.dropCarriageReturn line) now), some (p.complete false)) := by
  simp [push, hstart]

/-- So is a line that the record of the others has no room for, and that record is cut. -/
theorem push_of_full (hstart : ¬ s.start.isMatch (Text.dropCarriageReturn line) = true)
    (hfull : s.maxBytes <
      p.content.utf8ByteSize + 1 + (Text.dropCarriageReturn line).utf8ByteSize) :
    s.push (some p) line now =
      (some (.first (Text.dropCarriageReturn line) now), some (p.complete true)) := by
  simp [push, hstart, hfull]

/-- Every other line waits behind the others. -/
theorem push_of_room (hstart : ¬ s.start.isMatch (Text.dropCarriageReturn line) = true)
    (hroom : ¬ s.maxBytes <
      p.content.utf8ByteSize + 1 + (Text.dropCarriageReturn line).utf8ByteSize) :
    s.push (some p) line now = (some (p.append (Text.dropCarriageReturn line) now), none) := by
  simp [push, hstart, hroom]

end Push

/-- The waiting lines leave. -/
def flush (waiting : Option Pending) : Option Pending × Option Coalesced :=
  (none, waiting.map fun p => p.complete false)

/-- The waiting lines leave if the newest has come as long ago as the timeout asks. -/
def poll (s : Settings) (waiting : Option Pending) (now : Nat) :
    Option Pending × Option Coalesced :=
  match s.timeout, waiting with
  | some timeout, some p => if timeout ≤ now - p.since then flush waiting else (waiting, none)
  | _, _ => (waiting, none)

/-- One event. -/
def step (s : Settings) (waiting : Option Pending) :
    Event → Option Pending × Option Coalesced
  | .push line now => s.push waiting line now
  | .poll now => s.poll waiting now
  | .flush => flush waiting

/-- Events one after another, with the record that each completes. -/
def run (s : Settings) (waiting : Option Pending) :
    List Event → Option Pending × List (Option Coalesced)
  | [] => (waiting, [])
  | e :: rest =>
    let (waiting, r) := s.step waiting e
    let (waiting, rs) := run s waiting rest
    (waiting, r :: rs)

/-- The records that events complete, in order. -/
def records (s : Settings) (waiting : Option Pending) (events : List Event) :
    List Coalesced :=
  (s.run waiting events).2.filterMap id

/-- The records of a run are that of the first event, if it completes one, and those of the rest. -/
theorem records_cons (s : Settings) (waiting : Option Pending) (e : Event)
    (events : List Event) :
    s.records waiting (e :: events) =
      (s.step waiting e).2.toList ++ s.records (s.step waiting e).1 events := by
  cases h : (s.step waiting e).2 <;> simp [records, run, h]

/-- Time does nothing to the waiting lines, or all of them leave. -/
theorem poll_eq (s : Settings) (waiting : Option Pending) (now : Nat) :
    s.poll waiting now = (waiting, none) ∨ s.poll waiting now = flush waiting := by
  unfold poll
  split
  · split
    · exact Or.inr rfl
    · exact Or.inl rfl
  · exact Or.inl rfl

/-- A run in two parts: the second goes on with the lines that wait after the first. -/
theorem run_append (s : Settings) (waiting : Option Pending) (xs ys : List Event) :
    s.run waiting (xs ++ ys) =
      ((s.run (s.run waiting xs).1 ys).1,
        (s.run waiting xs).2 ++ (s.run (s.run waiting xs).1 ys).2) := by
  induction xs generalizing waiting with
  | nil => rfl
  | cons e xs ih => simp [run, ih]

end Aggregator.Settings

namespace Aggregator

variable {a b : Aggregator} {waiting : Option Pending}

/-- What the aggregator is set to. -/
def settings (a : Aggregator) : Settings := ⟨a.start, a.maxBytes, a.timeout⟩

/-- What text, counter and time of an aggregator say of the waiting lines. That none wait is said by
the counter alone. -/
inductive Shows (a : Aggregator) : Option Pending → Prop where
  | nothing (lineCount : a.lineCount = 0) : Shows a none
  | record {p : Pending} (buffer : a.buffer = p.content) (lineCount : a.lineCount = p.lines.length)
      (lastAppend : a.lastAppend = some p.since) : Shows a (some p)

/-- An aggregator that nothing has happened to shows that no line waits. -/
theorem shows_fresh (start : Regex.Expression) (maxBytes : Nat) (timeout : Option Nat) :
    ({ start, maxBytes, timeout } : Aggregator).Shows none :=
  .nothing rfl

/-- Something is pending exactly if lines wait. -/
theorem Shows.hasPending_eq (h : a.Shows waiting) : a.hasPending = waiting.isSome := by
  cases h with
  | nothing hcount => simp [hasPending, hcount]
  | @record p _ hcount _ => simp [hasPending, hcount, Pending.lines]

/-- The aggregator and its answer after an event are as the waiting lines and the answer that they
give, and the settings are as before. -/
structure Follows (after : Aggregator × Option Coalesced) (settings : Settings)
    (lists : Option Pending × Option Coalesced) : Prop where
  settings : after.1.settings = settings
  shows : after.1.Shows lists.1
  answer : after.2 = lists.2

/-! ## One event -/

@[simp] theorem start_stamp (a : Aggregator) (now : Nat) : (a.stamp now).start = a.start := rfl

@[simp] theorem maxBytes_stamp (a : Aggregator) (now : Nat) :
    (a.stamp now).maxBytes = a.maxBytes := rfl

/-- What is taken out is the record of the lines that text and counter stand for. -/
theorem take_of_record {p : Pending} (hbuffer : a.buffer = p.content)
    (hcount : a.lineCount = p.lines.length) (truncated : Bool) :
    a.take truncated = ({ a with buffer := "", lineCount := 0 }, some (p.complete truncated)) := by
  have hpending : a.hasPending = true := by
    simp [hasPending, hcount, Pending.lines]
  rw [take, hpending, hbuffer, hcount]
  rfl

/-- A line that is put into the buffer alone is the only one to wait. -/
theorem shows_begin {now : Nat} (h : a.lastAppend = some now) (line : String) :
    (a.begin line).Shows (some (.first line now)) :=
  .record (by simp [begin, Pending.content]) rfl h

/-- A line that is put behind the others waits behind them: the text is still the lines joined by
line feeds, and the counter still their number. -/
theorem shows_append {p : Pending} (hbuffer : a.buffer = p.content)
    (hcount : a.lineCount = p.lines.length) {now : Nat} (h : a.lastAppend = some now)
    (line : String) : (a.append line).Shows (some (p.append line now)) := by
  have hfeed : a.buffer.push '\n' = a.buffer ++ "\n" := by
    rw [← String.append_singleton]
    rfl
  have hcontent : (p.append line now).content = p.content ++ "\n" ++ line := by
    rw [Pending.content, Pending.lines_append,
      String.intercalate_append_of_ne_nil p.lines_ne_nil (List.cons_ne_nil line []),
      String.intercalate_singleton]
    rfl
  refine .record ?_ ?_ h
  · rw [hcontent, ← hbuffer, ← hfeed]
    rfl
  · rw [Pending.lines_append, List.length_append, ← hcount]
    rfl

/-- A push does to text, counter and time what it does to the waiting lines. -/
theorem push_follows (h : a.Shows waiting) (line : String) (now : Nat) :
    Follows (a.push line now) a.settings (a.settings.push waiting line now) := by
  have hpending : (a.stamp now).hasPending = waiting.isSome := h.hasPending_eq
  cases h with
  | nothing hcount =>
    have hpush : a.push line now =
        ((a.stamp now).begin (Text.dropCarriageReturn line), none) := by
      simp [push, hpending]
    rw [hpush]
    exact ⟨rfl, shows_begin rfl _, rfl⟩
  | @record p hbuffer hcount _ =>
    -- the time is kept before anything else, whatever the line turns out to be
    have htake := take_of_record (a := a.stamp now) hbuffer hcount
    have hsize : (a.stamp now).buffer.utf8ByteSize = p.content.utf8ByteSize :=
      congrArg String.utf8ByteSize hbuffer
    by_cases hstart : a.start.isMatch (Text.dropCarriageReturn line)
    · have hpush : a.push line now =
          (((a.stamp now).take false).1.begin (Text.dropCarriageReturn line),
            ((a.stamp now).take false).2) := by
        simp [push, hpending, hstart]
      rw [hpush, htake, Settings.push_of_start (s := a.settings) hstart]
      exact ⟨rfl, shows_begin rfl _, rfl⟩
    · by_cases hfull :
        a.maxBytes < p.content.utf8ByteSize + 1 + (Text.dropCarriageReturn line).utf8ByteSize
      · have hpush : a.push line now =
            (((a.stamp now).take true).1.begin (Text.dropCarriageReturn line),
              ((a.stamp now).take true).2) := by
          simp [push, hpending, hsize, hstart, hfull]
        rw [hpush, htake, Settings.push_of_full (s := a.settings) hstart hfull]
        exact ⟨rfl, shows_begin rfl _, rfl⟩
      · have hpush : a.push line now =
            ((a.stamp now).append (Text.dropCarriageReturn line), none) := by
          simp [push, hpending, hsize, hstart, hfull]
        rw [hpush, Settings.push_of_room (s := a.settings) hstart hfull]
        exact ⟨rfl, shows_append (a := a.stamp now) hbuffer hcount rfl _, rfl⟩

/-- A flush empties text and counter as the waiting lines leave. The time stays. -/
theorem flush_follows (h : a.Shows waiting) :
    Follows a.flush a.settings (Settings.flush waiting) := by
  cases h with
  | nothing hcount =>
    have hflush : a.flush = (a, none) := by
      simp [flush, take, hasPending, hcount]
    rw [hflush]
    exact ⟨rfl, .nothing hcount, rfl⟩
  | record hbuffer hcount _ =>
    rw [flush, take_of_record hbuffer hcount]
    exact ⟨rfl, .nothing rfl, rfl⟩

/-- A poll reads the time only where lines wait, and there it is that of the newest. -/
theorem poll_follows (h : a.Shows waiting) (now : Nat) :
    Follows (a.poll now) a.settings (a.settings.poll waiting now) := by
  have hquiet : Follows (a, none) a.settings (waiting, none) := ⟨rfl, h, rfl⟩
  have hflush := flush_follows h
  have hpending := h.hasPending_eq
  cases htimeout : a.timeout with
  | none => simpa [poll, Settings.poll, settings, htimeout] using hquiet
  | some timeout =>
    cases h with
    | nothing hcount =>
      -- whatever time is left over, nothing is pending
      have hpoll : a.poll now = (a, none) := by
        cases hlast : a.lastAppend <;> simp [poll, htimeout, hlast, hpending]
      rw [hpoll]
      simpa [Settings.poll] using hquiet
    | @record p _ _ hlast =>
      by_cases hwaited : timeout ≤ now - p.since
      · simpa [poll, Settings.poll, settings, htimeout, hlast, hpending, hwaited] using hflush
      · simpa [poll, Settings.poll, settings, htimeout, hlast, hpending, hwaited] using hquiet

/-- One event: the aggregator follows the waiting lines. -/
theorem step_simulates (h : a.Shows waiting) (e : Event) :
    Follows (a.step e) a.settings (a.settings.step waiting e) := by
  cases e with
  | push line now => exact push_follows h line now
  | poll now => exact poll_follows h now
  | flush => exact flush_follows h

/-! ## A run -/

/-- A run: by induction on the events, the aggregator follows the waiting lines to the end and gives
the same answers on the way. -/
theorem run_simulates (h : a.Shows waiting) (events : List Event) :
    (a.run events).1.settings = a.settings ∧
      (a.run events).1.Shows (a.settings.run waiting events).1 ∧
      (a.run events).2 = (a.settings.run waiting events).2 := by
  induction events generalizing a waiting with
  | nil => exact ⟨rfl, h, rfl⟩
  | cons e events ih =>
    have hstep := step_simulates h e
    obtain ⟨hsettings, hshows, hanswers⟩ := ih hstep.shows
    rw [hstep.settings] at hsettings hshows hanswers
    refine ⟨hsettings, hshows, ?_⟩
    simp only [run, Settings.run]
    rw [hanswers, hstep.answer]

/-- The records that events complete, in order. -/
def records (a : Aggregator) (events : List Event) : List Coalesced :=
  (a.run events).2.filterMap id

/-- The records of an aggregator are those of the lines that wait in it. -/
theorem records_of_shows (h : a.Shows waiting) (events : List Event) :
    a.records events = a.settings.records waiting events :=
  congrArg (List.filterMap id) (run_simulates h events).2.2

/-- Two aggregators of the same settings that show the same lines give the same answers ever after,
and have something pending at the same times. What else text and time hold is never read. -/
theorem run_eq_of_shows (ha : a.Shows waiting) (hb : b.Shows waiting)
    (hsettings : a.settings = b.settings) (events : List Event) :
    (a.run events).2 = (b.run events).2 ∧
      (a.run events).1.hasPending = (b.run events).1.hasPending := by
  obtain ⟨-, hashows, haanswers⟩ := run_simulates ha events
  obtain ⟨-, hbshows, hbanswers⟩ := run_simulates hb events
  rw [haanswers, hbanswers, hashows.hasPending_eq, hbshows.hasPending_eq, hsettings]
  exact ⟨rfl, rfl⟩

/-! ## The time of the last line -/

/-- The time of an event, if it is a push. -/
def Event.pushTime? : Event → Option Nat
  | .push _ now => some now
  | .poll _ => none
  | .flush => none

/-- The time of the last push among some events. -/
def lastPush? (events : List Event) : Option Nat := (events.filterMap Event.pushTime?).getLast?

/-- The first event counts only if there is no push behind it. -/
theorem lastPush?_cons (e : Event) (events : List Event) :
    lastPush? (e :: events) = (lastPush? events).or e.pushTime? := by
  cases e <;> simp [lastPush?, Event.pushTime?, List.getLast?_cons]

/-- No event but a push changes the time that is kept, and a push keeps its own. -/
theorem lastAppend_step (a : Aggregator) (e : Event) :
    (a.step e).1.lastAppend = e.pushTime?.or a.lastAppend := by
  have htake (b : Aggregator) (truncated : Bool) :
      (b.take truncated).1.lastAppend = b.lastAppend := by
    unfold take
    split <;> rfl
  cases e with
  | push line now =>
    simp only [step, push]
    split_ifs
    · rfl
    · exact htake (a.stamp now) false
    · exact htake (a.stamp now) true
    · rfl
  | poll now =>
    simp only [step, poll]
    split
    · split_ifs
      · exact htake a false
      · rfl
    · rfl
  | flush => exact htake a false

/-- The time that is kept after a run is that of the last push in it. -/
theorem lastAppend_run (a : Aggregator) (events : List Event) :
    (a.run events).1.lastAppend = (lastPush? events).or a.lastAppend := by
  induction events generalizing a with
  | nil => rfl
  | cons e events ih =>
    calc ((a.run (e :: events)).1).lastAppend
        = (lastPush? events).or (a.step e).1.lastAppend := ih (a.step e).1
      _ = (lastPush? (e :: events)).or a.lastAppend := by
        rw [lastAppend_step, lastPush?_cons, Option.or_assoc]

end Aggregator

end ClusterMonitor

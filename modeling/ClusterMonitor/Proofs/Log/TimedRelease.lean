import ClusterMonitor.Proofs.Log.Conservation
import ClusterMonitor.Schema.Builtin

/-!
# Release by time

Time releases the record under way when it has waited for the timeout since its last line came, and
at no other time. What a release leaves behind, the time of the last line above all, no later answer
depends on: what comes later is answered as by an aggregator that was never used. Times are as the
events tell them; they may run backwards.

* `Aggregator.poll_eq_some_iff` — what a single poll releases.
* `Aggregator.record_eq_of_shows` — the text and the counter of what is pending are those of the
  waiting lines.
* `Aggregator.hasPending_of_release` — nothing is pending behind a release.
* `Aggregator.run_release_exact` — all of it, for every history.
-/

namespace ClusterMonitor.Aggregator

variable {a : Aggregator}

/-- A poll releases what is pending if there is something, and if the timeout has passed since the
time that is kept. -/
theorem poll_eq_some_iff (a : Aggregator) (now : Nat) (r : Coalesced) :
    (a.poll now).2 = some r ↔
      ∃ t last, a.timeout = some t ∧ a.lastAppend = some last ∧ a.hasPending = true ∧
        t ≤ now - last ∧ ⟨a.buffer, a.lineCount, false⟩ = r := by
  cases ht : a.timeout with
  | none => simp [poll, ht]
  | some t =>
    cases hlast : a.lastAppend with
    | none => simp [poll, ht, hlast]
    | some last =>
      by_cases hpending : a.hasPending
      · by_cases hwaited : t ≤ now - last <;>
          simp [poll, ht, hlast, hpending, hwaited, flush, take]
      · simp [poll, ht, hlast, hpending]

/-- A poll that releases is a flush. -/
theorem poll_eq_flush {now : Nat} {r : Coalesced} (h : (a.poll now).2 = some r) :
    a.poll now = a.flush := by
  unfold poll at h ⊢
  split at h
  · split at h
    · rename_i hdue
      simp [hdue]
    · cases h
  · cases h

/-- A poll that releases nothing changes nothing: where it comes to a flush, something is pending. -/
theorem poll_fst_of_none {now : Nat} (h : (a.poll now).2 = none) : (a.poll now).1 = a := by
  unfold poll at h ⊢
  split at h
  · split at h
    · rename_i hdue
      simp [flush, take, hdue.1] at h
    · rename_i hdue
      simp [hdue]
  · rfl

/-- A flush that releases leaves nothing pending. -/
theorem hasPending_of_release {r : Coalesced} (h : a.flush.2 = some r) :
    a.flush.1.hasPending = false := by
  unfold flush take at h ⊢
  split at h
  · cases h
  · rename_i hpending
    rw [if_neg hpending]
    rfl

/-- What is pending is the waiting lines: the text is the join of them, and the counter their
number. -/
theorem record_eq_of_shows {waiting : Option Pending} (h : a.Shows waiting)
    (hpending : a.hasPending = true) :
    (⟨a.buffer, a.lineCount, false⟩ : Coalesced) =
      ⟨"\n".intercalate (Pending.held waiting), (Pending.held waiting).length, false⟩ := by
  cases h with
  | nothing hcount => simp [hasPending, hcount] at hpending
  | record hbuffer hcount _ =>
    rw [hbuffer, hcount]
    rfl

/-- Something is pending exactly if there are waiting lines. -/
theorem Shows.hasPending_iff {waiting : Option Pending} (h : a.Shows waiting) :
    a.hasPending = true ↔ Pending.held waiting ≠ [] := by
  rw [h.hasPending_eq]
  cases waiting <;> simp [Pending.held, Pending.lines]

/-- Whatever has happened to an aggregator, the lines that wait in it are those that no record has
been made of. A poll makes a record of all of them, and of nothing else, exactly if there are some
and the last push is as long ago as the timeout asks; otherwise it changes nothing. Behind a record
that a poll or a flush has released nothing is pending, and all later events are answered as by an
aggregator that begins with them. -/
theorem run_release_exact (start : Regex.Expression) (maxBytes : Nat) (timeout : Option Nat)
    (events : List Event) :
    let fresh : Aggregator := { start, maxBytes, timeout }
    let a := (fresh.run events).1
    ∃ (blocks : List (List String)) (waiting : List String),
      List.Forall₂ Coalesced.Holds (fresh.records events) blocks ∧
      List.Forall₂ Text.DropsReturn (pushed events) (blocks.flatten ++ waiting) ∧
      (a.hasPending = true ↔ waiting ≠ []) ∧
      (∀ now r, (a.poll now).2 = some r ↔
        (∃ t since, timeout = some t ∧ waiting ≠ [] ∧ lastPush? events = some since ∧
          t ≤ now - since) ∧
        r = ⟨"\n".intercalate waiting, waiting.length, false⟩) ∧
      (∀ now, (a.poll now).2 = none → (a.poll now).1 = a) ∧
      ∀ e, (e = .flush ∨ ∃ now, e = .poll now) → ∀ r, (a.step e).2 = some r →
        (a.step e).1.hasPending = false ∧
          ∀ later, ((a.step e).1.run later).2 = (fresh.run later).2 ∧
            ((a.step e).1.run later).1.hasPending = (fresh.run later).1.hasPending := by
  intro fresh a
  have hfresh : fresh.Shows none := shows_fresh start maxBytes timeout
  obtain ⟨hsettings, hshows, -⟩ := run_simulates hfresh events
  obtain ⟨blocks, hblocks, hflat⟩ := Settings.run_blocks fresh.settings none events
  rw [← records_of_shows hfresh] at hblocks
  have htimeout : a.timeout = timeout := congrArg Settings.timeout hsettings
  have hlast : a.lastAppend = lastPush? events := by
    rw [lastAppend_run, Option.or_none]
  refine ⟨blocks, Pending.held (fresh.settings.run none events).1, hblocks, ?_,
    hshows.hasPending_iff, ?_, fun now => poll_fst_of_none, ?_⟩
  · rw [hflat]
    exact Text.dropsReturn_map (pushed events)
  · intro now r
    rw [poll_eq_some_iff, htimeout, hlast, ← hshows.hasPending_iff]
    constructor
    · rintro ⟨t, since, ht, hsince, hpending, hwaited, rfl⟩
      exact ⟨⟨t, since, ht, hpending, hsince, hwaited⟩, record_eq_of_shows hshows hpending⟩
    · rintro ⟨⟨t, since, ht, hpending, hsince, hwaited⟩, rfl⟩
      exact ⟨t, since, ht, hsince, hpending, hwaited, record_eq_of_shows hshows hpending⟩
  · intro e he r hr
    have hflush : a.step e = a.flush := by
      rcases he with rfl | ⟨now, rfl⟩
      · rfl
      · exact poll_eq_flush hr
    rw [hflush] at hr ⊢
    have hquiet := hasPending_of_release hr
    have hstep := flush_follows hshows
    -- the time is left over, but what the two show is the same
    exact ⟨hquiet, run_eq_of_shows hstep.shows hfresh (hstep.settings.trans hsettings)⟩

/-- The clock is set back between two lines. The record waits for the timeout from the later line
on, which has the earlier time; after its release everything goes on as from the beginning. -/
theorem run_release_exact_clock_set_back :
    let fresh : Aggregator := { start := Schema.bracketPattern.expression, timeout := some 5 }
    let a := (fresh.run [.push "[EL 1" 9, .push "x\r" 4]).1
    (a.poll 8).2 = none ∧ (a.poll 8).1 = a ∧ (a.poll 9).2 = some ⟨"[EL 1\nx", 2, false⟩ ∧
      (a.poll 9).1.lastAppend = some 4 ∧
      ∀ later, ((a.poll 9).1.run later).2 = (fresh.run later).2 := by
  intro fresh a
  obtain ⟨blocks, waiting, -, -, -, -, hquiet, hrelease⟩ :=
    run_release_exact Schema.bracketPattern.expression defaultRecordBytes (some 5)
      [.push "[EL 1" 9, .push "x\r" 4]
  have hnone : (a.poll 8).2 = none := rfl
  have hsome : (a.poll 9).2 = some ⟨"[EL 1\nx", 2, false⟩ := rfl
  obtain ⟨-, hlater⟩ := hrelease (.poll 9) (Or.inr ⟨9, rfl⟩) _ hsome
  exact ⟨hnone, hquiet 8 hnone, hsome, rfl, fun later => (hlater later).1⟩

end ClusterMonitor.Aggregator

import ClusterMonitor.Proofs.Log.Routing
import ClusterMonitor.Proofs.Log.Waiting
import ClusterMonitor.Proofs.Regex.Search

/-!
# Matching at the start of a line

A pattern is anchored by pasting its text into a group behind an anchor. Whatever the text contains,
the pasted text is read as the anchor and the pattern's own tree, closed in the group. So alternatives
do not escape the anchor, and flags that the pattern sets do not reach it.

* `Pattern.MatchesStart` — the pattern matches where a text starts.
* `Pattern.anchored_body` — the expression of an anchored pattern.
* `Pattern.anchored_matches_start` — the anchored pattern, and the records that it begins.
-/

namespace ClusterMonitor

namespace Pattern

variable {p : Pattern}

/-- The leftmost match of the pattern in the text starts where the text does. -/
def MatchesStart (p : Pattern) (text : String) : Prop :=
  ∃ m, p.expression.body.find? (.ofText text.toList) = some m ∧ m.start = 0

/-- Wherever a pattern compiles behind an anchor, its own expression stands there. -/
theorem anchored_body (hp : p.Compiled) {e : Regex.Expression} (he : p.anchored = .ok e) :
    e.body = .seq (.look .textStart) p.expression.body := by
  unfold anchored compile at he
  split at he
  case h_1 e' hanchored =>
    cases he
    rw [Regex.Expression.eq_of_ofText?_anchored (expression_of_compiled hp) hanchored]
  case h_2 => cases he

theorem isMatch_anchored_iff (hp : p.Compiled) {e : Regex.Expression} (he : p.anchored = .ok e)
    (text : String) : e.isMatch text = true ↔ p.MatchesStart text := by
  have hstart := Regex.find?_start_iff p.expression.body (.ofText text.toList)
  rw [Regex.Expression.isMatch, anchored_body hp he, Regex.isMatch_textStart, ← hstart]
  rfl

/-- The pattern tells where the records of the aggregator begin: while something is pending, a line
completes it, other than by cutting it, exactly if the start of the line matches. -/
def BeginsRecords (p : Pattern) (a : Aggregator) : Prop :=
  a.hasPending = true → ∀ line now,
    (a.push line now).2 = some ⟨a.buffer, a.lineCount, false⟩ ↔
      p.MatchesStart (Text.dropCarriageReturn line)

/-- What is pending is complete, and not cut, exactly at a line that the start expression matches. -/
theorem push_snd_eq_some_iff {a : Aggregator} (ha : a.hasPending = true) (line : String)
    (now : Nat) :
    (a.push line now).2 = some ⟨a.buffer, a.lineCount, false⟩ ↔
      a.start.isMatch (Text.dropCarriageReturn line) = true := by
  have hpending : (a.stamp now).hasPending = true := ha
  have htake (truncated : Bool) :
      ((a.stamp now).take truncated).2 = some ⟨a.buffer, a.lineCount, truncated⟩ := by
    rw [Aggregator.take, hpending]
    rfl
  unfold Aggregator.push
  dsimp only
  rw [hpending, Bool.not_true, if_neg Bool.false_ne_true, Aggregator.start_stamp]
  split_ifs with hstart hroom
  · exact iff_of_true (htake false) hstart
  · exact iff_of_false (by simp [htake]) hstart
  · exact iff_of_false (by simp) hstart

/-- A compiled pattern tells where the records of every aggregator begin that has its anchored
expression. -/
theorem beginsRecords_of_start (hp : p.Compiled) {e : Regex.Expression} (he : p.anchored = .ok e)
    {a : Aggregator} (ha : a.start = e) : p.BeginsRecords a := by
  intro hpending line now
  rw [push_snd_eq_some_iff hpending, ha]
  exact isMatch_anchored_iff hp he _

/-- For a pattern text that compiles, by itself and anchored, the anchored expression matches a line if
and only if the pattern has a match that begins at the start of the line. So the pattern tells where
the records begin of an aggregator that is made of it, with any limits and after any events. -/
theorem anchored_matches_start {text : String} (hp : ofText text = .ok p) {e : Regex.Expression}
    (he : p.anchored = .ok e) :
    (∀ line, e.isMatch line = true ↔ p.MatchesStart line) ∧
    (∀ a : Aggregator, a.start = e → p.BeginsRecords a) ∧
    ∃ a, Aggregator.ofPattern p = .ok a ∧
      ∀ maxBytes timeout (events : List Aggregator.Event),
        let used := (({ a with maxBytes, timeout } : Aggregator).run events).1
        used.start = e ∧ p.BeginsRecords used := by
  have hcompiled := compiled_of_ofText hp
  refine ⟨isMatch_anchored_iff hcompiled he, fun a => beginsRecords_of_start hcompiled he,
    { start := e }, by rw [Aggregator.ofPattern, he]; rfl, ?_⟩
  intro maxBytes timeout events used
  -- no event changes the start expression
  have hsettings := (Aggregator.run_simulates (Aggregator.shows_fresh e maxBytes timeout) events).1
  have hstart : used.start = e := congrArg Aggregator.Settings.start hsettings
  exact ⟨hstart, beginsRecords_of_start hcompiled he hstart⟩

/-- With its flags inside the group, the second alternative does not match later in the text, and the
first one not at the start of a later line. -/
theorem anchored_matches_start_two_lines :
    ∃ p e, ofText "(?im)^err|b$" = .ok p ∧ p.anchored = .ok e ∧
      p.isMatch "a\nERR" = true ∧ e.isMatch "a\nERR" = false ∧ e.isMatch "Error" = true ∧
      ∃ a, Aggregator.ofPattern p = .ok a ∧
        ((a.push "a b" 0).1.push "Error\r" 1).2 = some ⟨"a b", 1, false⟩ := by
  obtain ⟨p, e, hp, he, hlater, hfirst, hmatch⟩ : ∃ p e, ofText "(?im)^err|b$" = .ok p ∧
      p.anchored = .ok e ∧
      p.expression.body.find? (.ofText "a\nERR".toList) = some ⟨2, 5, []⟩ ∧
      p.expression.body.find? (.ofText "Error".toList) = some ⟨0, 3, []⟩ ∧
      p.isMatch "a\nERR" = true :=
    ⟨_, _, rfl, rfl, rfl, rfl, rfl⟩
  obtain ⟨hline, -, a, ha, hused⟩ := anchored_matches_start hp he
  have hstarts : p.MatchesStart "Error" := ⟨_, hfirst, rfl⟩
  have hnot : ¬p.MatchesStart "a\nERR" := by
    rintro ⟨m, hm, hstart⟩
    rw [hlater] at hm
    cases hm
    cases hstart
  obtain rfl : { start := e } = a := Except.ok.inj ((congrArg _ he).symm.trans ha)
  obtain ⟨-, hbegins⟩ := hused defaultRecordBytes none [.push "a b" 0]
  refine ⟨p, e, hp, he, hmatch, ?_, (hline _).mpr hstarts, _, ha, ?_⟩
  · exact Bool.eq_false_iff.mpr fun h => hnot ((hline _).mp h)
  · exact (hbegins rfl "Error\r" 1).mpr hstarts

end Pattern

end ClusterMonitor

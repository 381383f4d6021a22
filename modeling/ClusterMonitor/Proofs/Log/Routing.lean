import ClusterMonitor.Log.Router
import ClusterMonitor.Proofs.Log.RoundTrip
import ClusterMonitor.Proofs.Regex.Grouping
import ClusterMonitor.Schema.Builtin

/-!
# Routing accepted sources

Validation looks at a source alone and does not read its path as a path pattern, nor does it compile
the pattern that begins records once more behind an anchor. Whatever else is asked of a source to
route files to it, validation has made sure of.

* `LogSource.Accepted` — sources that can stand in a document and pass validation.
* `Pattern.LeavesRoom`, `Pattern.anchored_eq` — patterns that compile behind an anchor as well.
* `Router.exists_ofSources_iff`, `Router.exists_of_ofSources_error` — a router fails with one of its
  file sources.
* `Router.accepted_usable` — what accepted sources still need to be usable.
-/

namespace ClusterMonitor

/-! ## Sources that validation accepts -/

namespace LogSource

/-- The source can come from a document, and validation finds no fault in it. -/
def Accepted (s : LogSource) : Prop := (∃ n, decode n = .ok s) ∧ s.validate = .ok ()

/-- The rules of an accepted source have compiled patterns. -/
theorem Accepted.compiled {s : LogSource} (h : s.Accepted) : ∀ r ∈ s.rules, r.pattern.Compiled :=
  have ⟨_, hdecode⟩ := h.1
  (sound_of_decode hdecode).compiled

/-- A valid file source has a path. -/
theorem exists_path_of_validate {s : LogSource} (h : s.validate = .ok ()) (hkind : s.kind = .file) :
    ∃ path, s.path = some path := by
  cases hpath : s.path with
  | some path => exact ⟨path, rfl⟩
  | none => simp [validate, fault?, hkind, hpath] at h

end LogSource

/-! ## Anchored patterns -/

namespace Pattern

/-- The pattern can be compiled anchored as well. -/
def LeavesRoom (p : Pattern) : Prop := Regex.LeavesRoom p.text p.expression

/-- The expression of a compiled pattern is that of its text. -/
theorem expression_of_compiled {p : Pattern} (h : p.Compiled) :
    Regex.Expression.ofText? p.text = some p.expression := by
  obtain ⟨e, hcompile, heq⟩ := Decode.map_eq_ok_iff.mp h
  have he : e = p.expression := congrArg Pattern.expression heq
  unfold compile at hcompile
  split at hcompile
  case h_1 f hf =>
    cases hcompile
    rw [hf, he]
  case h_2 => cases hcompile

/-- A pattern that leaves room is anchored by a condition on its start, and nothing else of it
changes. -/
theorem anchored_eq {p : Pattern} (hcompiled : p.Compiled) (hroom : p.LeavesRoom) :
    p.anchored = .ok ⟨.seq (.look .textStart) p.expression.body, p.expression.names⟩ := by
  unfold anchored anchoredText compile
  rw [Regex.Expression.ofText?_anchored (expression_of_compiled hcompiled) hroom]

/-- The pattern of the built-in sources leaves room. -/
theorem leavesRoom_bracketPattern : LeavesRoom Schema.bracketPattern := by
  have htree : Regex.Tree.ofText? Schema.bracketPattern.text =
      some (.sequence [.literal ⟨'[', none⟩, .literal ⟨'E', none⟩, .literal ⟨'L', none⟩], []) := rfl
  refine ⟨fun t names h => ?_, by decide, Regex.Tree.ofText?_append_eq_none htree ?_⟩
  · rw [htree] at h
    cases h
    decide
  · intro hon
    cases hon

end Pattern

/-- A source with compiled patterns has a processor when its start pattern leaves room. -/
theorem Processor.exists_ofSource {s : LogSource} (hcompiled : ∀ r ∈ s.rules, r.pattern.Compiled)
    (hroom : ∀ rule, s.multiLineRule? = some rule → rule.pattern.LeavesRoom) :
    ∃ p, ofSource s = .ok p := by
  unfold ofSource
  cases hrule : s.multiLineRule? with
  | none => exact ⟨_, rfl⟩
  | some rule =>
    have hmem : rule ∈ s.rules := List.mem_of_find?_eq_some hrule
    have hanchored := Pattern.anchored_eq (hcompiled rule hmem) (hroom rule hrule)
    have haggregator : Aggregator.ofPattern rule.pattern = .ok { start := _ } :=
      Decode.map_eq_ok_iff.mpr ⟨_, hanchored, rfl⟩
    exact ⟨_, Decode.map_eq_ok_iff.mpr ⟨_, haggregator, rfl⟩⟩

/-! ## Routes -/

namespace Router

/-- A file source without a fault is refused for its path only. -/
theorem routeOf_eq {s : LogSource} (h : s.validate = .ok ()) {path : String}
    (hpath : s.path = some path) :
    routeOf s = match Glob.ofText path with
      | .ok glob => .ok (glob, s)
      | .error fault => .error (.invalidPattern path fault.message) := by
  unfold routeOf
  rw [h, hpath]
  rfl

/-- The routes are those to the file sources, in their order. -/
theorem forall₂_routes {sources : List LogSource} {r : Router} (h : ofSources sources = .ok r) :
    List.Forall₂ (fun s route => routeOf s = .ok route)
      (sources.filter fun s => s.kind == .file) r.routes := by
  obtain ⟨routes, hroutes, rfl⟩ := Decode.map_eq_ok_iff.mp h
  exact Decode.mapM_eq_ok_iff.mp hroutes

/-- A route leads to the source that it was made for. -/
theorem snd_of_routeOf {s : LogSource} {route : Glob × LogSource} (h : routeOf s = .ok route) :
    route.2 = s := by
  obtain ⟨-, -, h⟩ := Decode.bind_eq_ok_iff.mp h
  dsimp only at h
  split at h
  case h_1 =>
    cases h
    rfl
  case h_2 => cases h

/-- The routes of a router lead to its file sources, in their order. -/
theorem map_snd_routes {sources : List LogSource} {r : Router} (h : ofSources sources = .ok r) :
    r.routes.map Prod.snd = sources.filter fun s => s.kind == .file := by
  have hsame : List.Forall₂ (fun s (route : Glob × LogSource) => s = route.2)
      (sources.filter fun s => s.kind == .file) r.routes :=
    (forall₂_routes h).imp fun _ _ hroute => (snd_of_routeOf hroute).symm
  have := List.forall₂_map_right_iff.mpr hsame
  exact (List.forall₂_eq_eq_eq ▸ this : _ = _).symm

/-- A file is routed to one of the sources. -/
theorem mem_of_route? {sources : List LogSource} {r : Router} (h : ofSources sources = .ok r)
    {path : String} {s : LogSource} (hroute : r.route? path = some s) : s ∈ sources := by
  obtain ⟨route, hfind, rfl⟩ := Option.map_eq_some_iff.mp hroute
  have hmem : route.2 ∈ r.routes.map Prod.snd :=
    List.mem_map_of_mem (List.mem_of_find?_eq_some hfind)
  rw [map_snd_routes h] at hmem
  exact List.mem_of_mem_filter hmem

/-- There is a router if and only if each file source has a route. -/
theorem exists_ofSources_iff {sources : List LogSource} :
    (∃ r, ofSources sources = .ok r) ↔
      ∀ s ∈ sources, s.kind = .file → ∃ route, routeOf s = .ok route := by
  have hroutes : (∃ r, ofSources sources = .ok r) ↔
      ∃ routes, (sources.filter fun s => s.kind == .file).mapM routeOf = .ok routes :=
    ⟨fun ⟨_, h⟩ => have ⟨routes, hroutes, _⟩ := Decode.map_eq_ok_iff.mp h
      ⟨routes, hroutes⟩,
    fun ⟨routes, h⟩ => ⟨_, Decode.map_eq_ok_iff.mpr ⟨routes, h, rfl⟩⟩⟩
  simp [hroutes, Decode.exists_mapM_eq_ok_iff]

/-- The error of a router is that of one of its file sources. -/
theorem exists_of_ofSources_error {sources : List LogSource} {e : LogError}
    (h : ofSources sources = .error e) :
    ∃ s ∈ sources, s.kind = .file ∧ routeOf s = .error e := by
  have hroutes : (sources.filter fun s => s.kind == .file).mapM routeOf = .error e := by
    unfold ofSources at h
    cases hmap : (sources.filter fun s => s.kind == .file).mapM routeOf with
    | ok routes =>
      rw [hmap] at h
      cases h
    | error e' =>
      rw [hmap] at h
      cases h
      rfl
  obtain ⟨s, hs, he⟩ := Decode.exists_of_mapM_error hroutes
  obtain ⟨hmem, hkind⟩ := List.mem_filter.mp hs
  exact ⟨s, hmem, by simpa using hkind, he⟩

/-- Accepted sources are usable up to two things that validation leaves open. The router accepts them
if and only if the path of every file source is a path pattern; otherwise it names a path that is
not. Once there is a router, a path has a processor whenever the pattern that begins the records of
its source leaves room for an anchor. -/
theorem accepted_usable {sources : List LogSource} (haccepted : ∀ s ∈ sources, s.Accepted) :
    ((∃ r, ofSources sources = .ok r) ↔
      ∀ s ∈ sources, s.kind = .file → ∀ path, s.path = some path →
        ∃ glob, Glob.ofText path = .ok glob) ∧
    (∀ e, ofSources sources = .error e →
      ∃ s ∈ sources, s.kind = .file ∧ ∃ path fault, s.path = some path ∧
        Glob.ofText path = .error fault ∧ e = .invalidPattern path fault.message) ∧
    ∀ r, ofSources sources = .ok r → ∀ path,
      (∀ s rule, r.route? path = some s → s.multiLineRule? = some rule →
        rule.pattern.LeavesRoom) →
      ∃ p, r.processorFor path = .ok p := by
  refine ⟨?_, ?_, ?_⟩
  · -- a file source that passes validation has a path, and fails for nothing but this path
    rw [exists_ofSources_iff]
    refine forall₃_congr fun s hs hkind => ?_
    obtain ⟨path, hpath⟩ := LogSource.exists_path_of_validate (haccepted s hs).2 hkind
    rw [routeOf_eq (haccepted s hs).2 hpath, hpath]
    constructor
    · rintro ⟨route, hroute⟩ path' hpath'
      cases hpath'
      cases hglob : Glob.ofText path with
      | ok glob => exact ⟨glob, rfl⟩
      | error fault =>
        rw [hglob] at hroute
        cases hroute
    · intro hglob
      obtain ⟨glob, hglob⟩ := hglob path rfl
      exact ⟨(glob, s), by rw [hglob]⟩
  · intro e herror
    obtain ⟨s, hs, hkind, hroute⟩ := exists_of_ofSources_error herror
    obtain ⟨path, hpath⟩ := LogSource.exists_path_of_validate (haccepted s hs).2 hkind
    rw [routeOf_eq (haccepted s hs).2 hpath] at hroute
    split at hroute
    case h_1 => cases hroute
    case h_2 fault hfault =>
      cases hroute
      exact ⟨s, hs, hkind, path, fault, hpath, hfault, rfl⟩
  · -- a route leads to one of the sources, all of which were decoded, with patterns compiled
    intro r hr path hroom
    unfold processorFor
    cases hroute : r.route? path with
    | none => exact ⟨_, rfl⟩
    | some s =>
      have hcompiled := (haccepted s (mem_of_route? hr hroute)).compiled
      exact Processor.exists_ofSource hcompiled fun rule hrule => hroom s rule hroute hrule

theorem accepted_usable_bracket_pattern :
    let s := (LogSource.file "/var/log/*.log" "ambari" "ambari").withRule
      (.multiLine "start" Schema.bracketPattern)
    s.Accepted ∧ ∃ r p, ofSources [s] = .ok r ∧ r.processorFor "/var/log/a.log" = .ok p := by
  intro s
  have hsound : s.Sound := by
    refine ⟨by simp [s, LogSource.withRule, LogSource.file], fun rule hrule => ?_⟩
    cases List.mem_singleton.mp hrule
    rfl
  have haccepted : s.Accepted := ⟨⟨_, LogSource.decode_toValue hsound⟩, rfl⟩
  have hall : ∀ t ∈ [s], t.Accepted := by simpa using haccepted
  obtain ⟨hrouter, -, hprocessor⟩ := accepted_usable hall
  obtain ⟨r, hr⟩ := hrouter.mpr fun t ht _ path hpath => by
    cases List.mem_singleton.mp ht
    cases hpath
    exact ⟨_, rfl⟩
  obtain ⟨p, hp⟩ := hprocessor r hr "/var/log/a.log" fun t rule hroute hrule => by
    cases List.mem_singleton.mp (mem_of_route? hr hroute)
    cases hrule
    exact Pattern.leavesRoom_bracketPattern
  exact ⟨haccepted, r, p, hr, hp⟩

/-- An accepted source with a bracket in its path that is not closed. -/
theorem accepted_unroutable :
    let s := LogSource.file "/var/log/[ambari.log" "ambari" "ambari"
    s.Accepted ∧ ofSources [s] = .error (.invalidPattern "/var/log/[ambari.log"
      "Pattern syntax error near position 9: invalid range pattern") := by
  have hsound : (LogSource.file "/var/log/[ambari.log" "ambari" "ambari").Sound :=
    ⟨by simp [LogSource.file], by simp [LogSource.file]⟩
  refine ⟨⟨⟨_, LogSource.decode_toValue hsound⟩, ?_⟩, ?_⟩
  · rfl
  · rfl

end Router

end ClusterMonitor

import ClusterMonitor.Config.Store
import ClusterMonitor.Proofs.Config.Layers
import ClusterMonitor.Proofs.Config.Reading

/-!
# What a store shows

A store and its subscribers show the configuration of the last build that succeeded. A build that
fails leaves no trace, and a subscriber has news if a reload has succeeded since it last looked.

* `Engine.LastBuilt` — a configuration comes from the last of some builds that succeeded.
* `Watched` — a store with one of its subscribers, and what happens to them.
* `Watched.Shows` — what holds of them after a history; `Watched.shows_step` and `Watched.shows_run`
  carry it through one event and through many.
* `Store.run_shows_last_built` — a store from its opening on.
-/

namespace ClusterMonitor

/-! ## Builds that succeed -/

namespace Engine

variable {e : Engine} {s : Surroundings} {c : Configuration} {fault : ConfigError}

/-- The engine builds a configuration in these surroundings. -/
def Builds (e : Engine) (s : Surroundings) : Prop := ∃ c, e.build s = .ok c

/-- The configuration comes from the last of some builds that succeeded. -/
def LastBuilt (e : Engine) (history : List Surroundings) (c : Configuration) : Prop :=
  ∃ s, IsLast e.Builds history s ∧ e.build s = .ok c

/-- An engine that fails with an error does not succeed. -/
theorem not_builds_of_error (h : e.build s = .error fault) : ¬ e.Builds s := by
  rintro ⟨c, hc⟩
  rw [h] at hc
  cases hc

/-- After a build that succeeds, its configuration is the last one built. -/
theorem lastBuilt_concat_of_ok (h : e.build s = .ok c) (history : List Surroundings)
    (c' : Configuration) : e.LastBuilt (history ++ [s]) c' ↔ c' = c := by
  have hlast : ∀ s', IsLast e.Builds (history ++ [s]) s' ↔ s' = s :=
    isLast_concat_of_pos ⟨c, h⟩ history
  simp only [LastBuilt, hlast, exists_eq_left, h, Except.ok.injEq]
  exact eq_comm

/-- A build that fails leaves the last one built as it was. -/
theorem lastBuilt_concat_of_error (h : e.build s = .error fault) (history : List Surroundings)
    (c' : Configuration) : e.LastBuilt (history ++ [s]) c' ↔ e.LastBuilt history c' := by
  have hlast : ∀ s', IsLast e.Builds (history ++ [s]) s' ↔ IsLast e.Builds history s' :=
    isLast_concat_of_neg (not_builds_of_error h) history
  simp only [LastBuilt, hlast]

end Engine

/-! ## A store -/

namespace Store

/-- What one reload does: it publishes what the engine builds, or leaves the store as it is. -/
theorem reload_cases (store : Store) (s : Surroundings) :
    (∃ c, store.engine.build s = .ok c ∧ store.reload s = (store.publish c, .ok c)) ∨
      ∃ fault, store.engine.build s = .error fault ∧ store.reload s = (store, .error fault) := by
  unfold reload
  cases hbuild : store.engine.build s with
  | ok c => exact Or.inl ⟨c, rfl, rfl⟩
  | error fault => exact Or.inr ⟨fault, rfl, rfl⟩

/-- The store after reloads in different surroundings. -/
def reloadAll (store : Store) (surroundings : List Surroundings) : Store :=
  surroundings.foldl (fun store s => (store.reload s).1) store

end Store

/-! ## A store and a subscriber -/

/-- What happens to a store and one of its subscribers: a reload in some surroundings, or a look of
the subscriber at the current configuration. -/
inductive StoreEvent where
  | reload (s : Surroundings)
  | look

/-- The surroundings of the reloads. -/
def StoreEvent.reloads (events : List StoreEvent) : List Surroundings :=
  events.filterMap fun
    | .reload s => some s
    | .look => none

/-- A store with one of its subscribers. -/
structure Watched where
  store : Store
  subscriber : Subscriber

namespace Watched

variable {e : Engine} {history : List Surroundings} {events : List StoreEvent} {w : Watched}

def step (w : Watched) : StoreEvent → Watched
  | .reload s => { w with store := (w.store.reload s).1 }
  | .look => { w with subscriber := (w.subscriber.update w.store).1 }

def run (w : Watched) (events : List StoreEvent) : Watched := events.foldl step w

/-- A reload has succeeded, and the subscriber has not looked since. -/
def HasNews (e : Engine) (events : List StoreEvent) : Prop :=
  ∃ before s after, events = before ++ .reload s :: after ∧ e.Builds s ∧ StoreEvent.look ∉ after

/-- There is no news before anything has happened. -/
theorem not_hasNews_nil (e : Engine) : ¬ HasNews e [] := by
  rintro ⟨before, s, after, h, -⟩
  cases before <;> cases h

/-- There is none after a look. -/
theorem not_hasNews_concat_look (e : Engine) (events : List StoreEvent) :
    ¬ HasNews e (events ++ [.look]) := by
  rintro ⟨before, s, after, h, -, hafter⟩
  rcases cases_of_concat_eq h with ⟨-, hlast⟩ | ⟨between, rfl, -⟩
  · cases hlast
  · exact hafter (by simp)

/-- A reload brings news if it succeeds, and keeps those there were. -/
theorem hasNews_concat_reload (e : Engine) (events : List StoreEvent) (s : Surroundings) :
    HasNews e (events ++ [.reload s]) ↔ e.Builds s ∨ HasNews e events := by
  constructor
  · rintro ⟨before, s', after, h, hbuilds, hafter⟩
    rcases cases_of_concat_eq h with ⟨-, hlast⟩ | ⟨between, rfl, hevents⟩
    · cases hlast
      exact Or.inl hbuilds
    · exact Or.inr ⟨before, s', between, hevents, hbuilds, fun hlook => hafter (by simp [hlook])⟩
  · rintro (hbuilds | ⟨before, s', after, rfl, hbuilds, hafter⟩)
    · exact ⟨events, s, [], rfl, hbuilds, List.not_mem_nil⟩
    · exact ⟨before, s', after ++ [.reload s], by simp, hbuilds, by simpa using hafter⟩

/-- After some builds, and some events since the subscriber came, the store has the configuration of
the last build that succeeded, and the subscriber lags behind if there is news for it. -/
structure Shows (e : Engine) (history : List Surroundings) (events : List StoreEvent)
    (w : Watched) : Prop where
  engine : w.store.engine = e
  current : ∀ c, e.LastBuilt history c ↔ c = w.store.current
  seen_le : w.subscriber.seen ≤ w.store.version
  seen_ne_iff : w.subscriber.seen ≠ w.store.version ↔ HasNews e events

/-- Whoever subscribes now has no news. -/
theorem shows_subscribe (h : w.Shows e history events) :
    Shows e history [] ⟨w.store, w.store.subscribe⟩ where
  engine := h.engine
  current := h.current
  seen_le := Nat.le_refl _
  seen_ne_iff := by
    have hseen : w.store.subscribe.seen = w.store.version := rfl
    simp [hseen, not_hasNews_nil]

/-- A reload keeps the invariant: with success the store and the subscriber have the new
configuration, and else all stays. -/
theorem shows_reload (h : w.Shows e history events) (s : Surroundings) :
    (w.step (.reload s)).Shows e (history ++ [s]) (events ++ [.reload s]) := by
  rcases w.store.reload_cases s with ⟨c, hbuild, hreload⟩ | ⟨fault, hbuild, hreload⟩
  · -- the store is one version ahead of whatever the subscriber has seen
    rw [h.engine] at hbuild
    have hstep : w.step (.reload s) = ⟨w.store.publish c, w.subscriber⟩ := by
      rw [step, hreload]
    have hle := h.seen_le
    have hnews : HasNews e (events ++ [.reload s]) :=
      (hasNews_concat_reload e events s).mpr (Or.inl ⟨c, hbuild⟩)
    rw [hstep]
    constructor
    · exact h.engine
    · exact Engine.lastBuilt_concat_of_ok hbuild history
    · show w.subscriber.seen ≤ w.store.version + 1
      omega
    · show w.subscriber.seen ≠ w.store.version + 1 ↔ _
      have hne : w.subscriber.seen ≠ w.store.version + 1 := by omega
      exact iff_of_true hne hnews
  · -- nothing has changed, and the history is longer by a build that failed
    rw [h.engine] at hbuild
    have hstep : w.step (.reload s) = w := by rw [step, hreload]
    rw [hstep]
    constructor
    · exact h.engine
    · intro c
      rw [Engine.lastBuilt_concat_of_error hbuild]
      exact h.current c
    · exact h.seen_le
    · rw [hasNews_concat_reload, or_iff_right (Engine.not_builds_of_error hbuild)]
      exact h.seen_ne_iff

/-- A look keeps the invariant, and uses up the news. -/
theorem shows_look (h : w.Shows e history events) :
    (w.step .look).Shows e history (events ++ [.look]) where
  engine := h.engine
  current := h.current
  seen_le := Nat.le_refl _
  seen_ne_iff := iff_of_false (fun hne => hne rfl) (not_hasNews_concat_look e events)

/-- One event carries on what store and subscriber show. -/
theorem shows_step (h : w.Shows e history events) (event : StoreEvent) :
    (w.step event).Shows e (history ++ StoreEvent.reloads [event]) (events ++ [event]) := by
  cases event with
  | reload s => exact shows_reload h s
  | look =>
    have hreloads : StoreEvent.reloads [.look] = [] := rfl
    rw [hreloads, List.append_nil]
    exact shows_look h

/-- So do many events, whatever the reloads find. -/
theorem shows_run (h : w.Shows e history []) (events : List StoreEvent) :
    (w.run events).Shows e (history ++ StoreEvent.reloads events) events := by
  induction events using List.reverseRecOn with
  | nil => rwa [StoreEvent.reloads, List.filterMap_nil, List.append_nil]
  | append_singleton events event ih =>
    have hrun : w.run (events ++ [event]) = (w.run events).step event := by
      rw [run, List.foldl_append]
      rfl
    have hreloads : StoreEvent.reloads (events ++ [event]) =
        StoreEvent.reloads events ++ StoreEvent.reloads [event] := List.filterMap_append
    rw [hrun, hreloads, ← List.append_assoc]
    exact shows_step ih event

end Watched

namespace Store

variable {e : Engine} {opened : Surroundings} {store : Store}

/-- A new store with its subscriber shows what it was opened with. -/
theorem shows_of_ofEngine (h : ofEngine e opened = .ok store) :
    Watched.Shows e [opened] [] ⟨store, store.subscribe⟩ := by
  unfold ofEngine at h
  cases hbuild : e.build opened with
  | error fault =>
    rw [hbuild] at h
    cases h
  | ok c =>
    rw [hbuild] at h
    cases h
    exact
      { engine := rfl
        current := Engine.lastBuilt_concat_of_ok hbuild []
        seen_le := Nat.le_refl _
        seen_ne_iff := iff_of_false (fun hne => hne rfl) (Watched.not_hasNews_nil e) }

/-- A run of reloads is seen by the store as these reloads. -/
theorem store_run_map_reload (w : Watched) (surroundings : List Surroundings) :
    (w.run (surroundings.map .reload)).store = w.store.reloadAll surroundings := by
  induction surroundings generalizing w with
  | nil => rfl
  | cons s rest ih => exact ih (w.step (.reload s))

theorem reloads_map_reload (surroundings : List Surroundings) :
    StoreEvent.reloads (surroundings.map .reload) = surroundings := by
  simp [StoreEvent.reloads, List.filterMap_map]

/-- From its opening on, whatever the reloads find, and whenever a subscriber comes, a store and the
subscriber show the configuration of the last build that succeeded, and the subscriber has news if a
reload has succeeded since it last looked. The next reload returns the fault of its build and changes
nothing, or it returns the configuration that it publishes. -/
theorem run_shows_last_built (h : ofEngine e opened = .ok store) (earlier : List Surroundings)
    (events : List StoreEvent) :
    let subscribed := store.reloadAll earlier
    let w := Watched.run ⟨subscribed, subscribed.subscribe⟩ events
    (∀ c, e.LastBuilt (opened :: earlier ++ StoreEvent.reloads events) c ↔
        c = w.store.current) ∧
      (w.subscriber.update w.store).2 = w.store.current ∧
      (w.subscriber.hasChanged w.store = true ↔ Watched.HasNews e events) ∧
      ∀ s,
        (∀ fault, e.build s = .error fault → w.store.reload s = (w.store, .error fault)) ∧
        ∀ c, e.build s = .ok c →
          ∃ next, w.store.reload s = (next, .ok c) ∧ next.current = c := by
  intro subscribed w
  -- the reloads before the subscription run with another subscriber, which is then replaced
  have hearlier := Watched.shows_run (shows_of_ofEngine h) (earlier.map .reload)
  have hsubscribed := Watched.shows_subscribe hearlier
  rw [store_run_map_reload, reloads_map_reload] at hsubscribed
  have hw : w.Shows e (opened :: earlier ++ StoreEvent.reloads events) events :=
    Watched.shows_run hsubscribed events
  refine ⟨hw.current, rfl, ?_, fun s => ⟨fun fault hbuild => ?_, fun c hbuild => ?_⟩⟩
  · rw [Subscriber.hasChanged, bne_iff_ne]
    exact hw.seen_ne_iff
  · rw [reload, hw.engine, hbuild]
  · rw [reload, hw.engine, hbuild]
    exact ⟨w.store.publish c, rfl, rfl⟩

/-- A source that hands out a service finds another one, the subscriber looks, and the source is gone:
the second configuration stays, and it is no news. -/
theorem run_shows_last_built_source_gone :
    let document (service : String) := Value.object
      [("init_config", .object [("service", .string service)]), ("instances", .array [.null])]
    let layer (s : Surroundings) : Except ConfigError Value :=
      s.environment.head?.elim (.error (.sourceNotFound "remote")) fun v => .ok (document v.2)
    let e : Engine := { sources := [.other "remote" layer] }
    let first : Surroundings := { environment := [("SERVICE", "HDFS")] }
    let second : Surroundings := { environment := [("SERVICE", "YARN")] }
    ∃ store, ofEngine e first = .ok store ∧
      let w := Watched.run ⟨store, store.subscribe⟩ [.reload second, .look, .reload {}]
      e.build second = .ok w.store.current ∧
        w.subscriber.hasChanged w.store = false ∧
        w.store.reload {} = (w.store, .error (.sourceNotFound "remote")) := by
  intro document layer e first second
  have hread (service : String) : ∃ c, Configuration.read .builtin (document service) = .ok c :=
    ⟨_, (Configuration.read_eq_ok_iff _ _ _).mpr
      ⟨_, [.null], rfl, rfl, List.cons_ne_nil _ _, rfl⟩⟩
  obtain ⟨c₁, hc₁⟩ := hread "HDFS"
  obtain ⟨c₂, hc₂⟩ := hread "YARN"
  have hfirst : e.build first = .ok (e.withDefaultLogs c₁) := congrArg (Except.map _) hc₁
  have hsecond : e.build second = .ok (e.withDefaultLogs c₂) := congrArg (Except.map _) hc₂
  have hgone : e.build {} = .error (.sourceNotFound "remote") := rfl
  have hstore : ofEngine e first = .ok ⟨e, e.withDefaultLogs c₁, 0⟩ := by rw [ofEngine, hfirst]; rfl
  refine ⟨_, hstore, ?_⟩
  intro w
  obtain ⟨hcurrent, -, hnews, hreload⟩ :=
    run_shows_last_built hstore [] [.reload second, .look, .reload {}]
  have hlast : e.LastBuilt [first, second, {}] (e.withDefaultLogs c₂) := by
    refine ⟨second, ⟨[first], [{}], rfl, ⟨_, hsecond⟩, ?_⟩, hsecond⟩
    rw [List.forall_mem_singleton]
    exact Engine.not_builds_of_error hgone
  have hw : e.withDefaultLogs c₂ = w.store.current := (hcurrent _).mp hlast
  have hquiet : ¬ Watched.HasNews e [.reload second, .look, .reload {}] := by
    intro h
    rcases (Watched.hasNews_concat_reload e [.reload second, .look] {}).mp h with hbuilds | hbefore
    · exact Engine.not_builds_of_error hgone hbuilds
    · exact Watched.not_hasNews_concat_look e [.reload second] hbefore
  have hseen : w.subscriber.hasChanged w.store = false :=
    Bool.eq_false_iff.mpr fun h => hquiet (hnews.mp h)
  exact ⟨hw ▸ hsecond, hseen, (hreload {}).1 _ hgone⟩

end Store

end ClusterMonitor

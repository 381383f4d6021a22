import ClusterMonitor.Config.Engine

/-!
# Store

Holds the last good configuration and lets subscribers see when there is a new one. A reload that
fails changes nothing.

* `Store.ofEngine` and `Store.reload` — the first configuration and its replacements.
* `Subscriber` — what a subscriber has seen; `hasChanged` and `update` compare it with the store.
* `watchTarget` — the file of a path whose changes can be watched.
-/

namespace ClusterMonitor

/-- The current configuration of an engine. -/
structure Store where
  engine : Engine
  current : Configuration
  /-- How many configurations have been published after the first one. -/
  version : Nat := 0

/-- The version that a subscriber has seen last. -/
structure Subscriber where
  seen : Nat
deriving DecidableEq, Repr

namespace Store

/-- A store with a first configuration. -/
def ofEngine (e : Engine) (s : Surroundings) : Except ConfigError Store :=
  (e.build s).map fun c => { engine := e, current := c }

/-- Publishes a configuration. -/
def publish (store : Store) (c : Configuration) : Store :=
  { store with current := c, version := store.version + 1 }

/-- Builds the configuration anew and publishes it; if that fails, the store stays as it is. -/
def reload (store : Store) (s : Surroundings) : Store × Except ConfigError Configuration :=
  match store.engine.build s with
  | .error e => (store, .error e)
  | .ok c => (store.publish c, .ok c)

/-- A subscriber that has seen the current configuration. -/
def subscribe (store : Store) : Subscriber := ⟨store.version⟩

end Store

namespace Subscriber

/-- Is there a configuration that the subscriber has not seen? -/
def hasChanged (r : Subscriber) (store : Store) : Bool := r.seen != store.version

/-- Sees the current configuration. -/
def update (_ : Subscriber) (store : Store) : Subscriber × Configuration :=
  (store.subscribe, store.current)

end Subscriber

/-- The file of a path whose changes can be watched. -/
def watchTarget (path : String) : Except ConfigError String :=
  match Path.fileName? path with
  | some name => .ok name
  | none => .error (.watcherFailed s!"{path} is not a file path")

end ClusterMonitor

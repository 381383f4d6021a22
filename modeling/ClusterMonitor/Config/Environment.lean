import ClusterMonitor.Config.Layer
import ClusterMonitor.Config.Setting
import ClusterMonitor.Surroundings

/-!
# Overrides from the environment

Variables whose names start with an agreed text override options. The rest of the name is the option,
in lower case; two underscores, or a dot, stand between the keys of nested options.

* `Environment.keys?` — the keys that the name of a variable leads to.
* `Environment.overrides` — what all variables say together, later ones laid over earlier ones.
-/

namespace ClusterMonitor.Environment

/-- How the names of variables start that override options. -/
def defaultOpening : String := "AMBARI_"

/-- The rest of a text behind its opening, which may be in other cases. -/
def dropOpening? : List Char → List Char → Option (List Char)
  | [], rest => some rest
  | o :: opening, c :: rest =>
    if o.toLower = c.toLower then dropOpening? opening rest else none
  | _ :: _, [] => none

/-- The keys that the name of a variable leads to. A name with an empty key leads nowhere. -/
def keys? (opening name : String) : Option (List String) := do
  let rest ← dropOpening? opening.toList (Unicode.trim name).toList
  let key := Unicode.trim ((String.ofList rest).replace "__" ".")
  let keys := (key.splitOn ".").map fun k => String.ofList (k.toList.map Char.toLower)
  if keys.contains "" then none else some keys

/-- A value under nested keys. -/
def nest : List String → Value → Value
  | [], v => v
  | key :: keys, v => .object [(key, nest keys v)]

/-- Lays what a variable says over what earlier ones said. -/
def apply (opening : String) (said : Value) (v : String × String) : Value :=
  match keys? opening v.1 with
  | some keys => said.overlay (nest keys (Setting.read v.2))
  | none => said

/-- The overrides of all variables. -/
def overrides (opening : String) (e : Environment) : Value :=
  e.foldl (apply opening) (.object [])

/-- The section of a document that the environment may override. -/
def overriddenSection : String := "init_config"

/-- The overrides as a document; an empty one if there are none. -/
def document (opening : String) (e : Environment) : Value :=
  match overrides opening e with
  | .object [] => .object []
  | v => .object [(overriddenSection, v)]

end ClusterMonitor.Environment

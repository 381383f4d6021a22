import ClusterMonitor.Path

/-!
# Surroundings

What a run of the program can see around it: files, by names from the working directory or from the
root, and the variables of its environment.

* `Surroundings.read` — the bytes of the file that a path leads to, or why there are none.
* `Surroundings.withFile`, `withoutFile`, `withVariable` — the surroundings after a change.
-/

namespace ClusterMonitor

/-- Why a file cannot be read. -/
inductive ReadFault where
  /-- Nothing is there. -/
  | missing
  /-- The path goes on behind a file. -/
  | notDirectory
  /-- A directory is there. -/
  | isDirectory
deriving DecidableEq, Repr

def ReadFault.message : ReadFault → String
  | .missing => "No such file or directory (os error 2)"
  | .notDirectory => "Not a directory (os error 20)"
  | .isDirectory => "Is a directory (os error 21)"

/-- Variables with their values, in the order in which they were set. -/
abbrev Environment := List (String × String)

/-- Files and variables. -/
structure Surroundings where
  /-- The files with their names. -/
  files : List (String × List UInt8) := []
  environment : Environment := []

namespace Surroundings

/-- The bytes of the file in a place. -/
def fileAt? (s : Surroundings) (place : List String) : Option (List UInt8) :=
  (s.files.find? fun f => Path.place f.1 == place).map Prod.snd

/-- Is there a directory in a place? A directory exists when a file lies somewhere below it. -/
def isDirectory (s : Surroundings) (place : List String) : Bool :=
  Path.isTop place || s.files.any fun f => place.isPrefixOf (Path.place f.1)

/-- Follows segments from a directory. Of what lies above the working directory nothing is known,
other than that it consists of directories. -/
def follow (s : Surroundings) (place : List String) : List String → Except ReadFault (List UInt8)
  | [] => .error .isDirectory
  | segment :: rest =>
    if !Path.isStep segment then follow s place rest
    else if segment = ".." then
      if place.isEmpty then
        .error (if rest.all (fun r => !Path.isStep r || r == "..") then .isDirectory else .missing)
      else follow s (if Path.isTop place then place else place.dropLast) rest
    else
      let next := place ++ [segment]
      match s.fileAt? next with
      | some bytes => if rest.isEmpty then .ok bytes else .error .notDirectory
      | none => if s.isDirectory next then follow s next rest else .error .missing

/-- The bytes of the file that a path leads to: the file of that very name, or the one that its
segments lead to. -/
def read (s : Surroundings) (path : String) : Except ReadFault (List UInt8) :=
  match s.files.lookup path with
  | some bytes => .ok bytes
  | none =>
    if path.isEmpty then .error .missing
    else s.follow (Path.start path) (Path.segments path)

/-- The surroundings with a file, in place of the one with the same name. -/
def withFile (s : Surroundings) (name : String) (bytes : List UInt8) : Surroundings :=
  { s with files := (name, bytes) :: s.files.filter fun f => f.1 != name }

/-- The surroundings without a file. -/
def withoutFile (s : Surroundings) (name : String) : Surroundings :=
  { s with files := s.files.filter fun f => f.1 != name }

/-- The surroundings with a variable: it keeps its place if it was set before, else it is last. -/
def withVariable (s : Surroundings) (name value : String) : Surroundings :=
  { s with
    environment :=
      if s.environment.any (fun v => v.1 == name) then
        s.environment.map fun v => if v.1 == name then (name, value) else v
      else s.environment ++ [(name, value)] }

end Surroundings

end ClusterMonitor

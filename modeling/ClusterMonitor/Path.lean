/-!
# Paths

Names of files: segments between slashes. Empty segments and single dots mean nothing.

* `Path.fileName?` — the last segment, if it names a file.
* `Path.extension?` — what follows the last dot of the file name.
-/

namespace ClusterMonitor.Path

/-- All segments of a path, with those that mean nothing. -/
def segments (path : String) : List String := path.splitOn "/"

/-- Does a segment leave the place where it stands? -/
def isStep (segment : String) : Bool := segment != "" && segment != "."

/-- The segments that mean something. -/
def steps (path : String) : List String := (segments path).filter isStep

/-- Where a path starts: at the root, or in the working directory. -/
def start (path : String) : List String := if path.startsWith "/" then ["/"] else []

/-- Is this place one where paths start? -/
def isTop (place : List String) : Bool := place.isEmpty || place == ["/"]

/-- The place that a path without upward steps names. -/
def place (path : String) : List String := start path ++ steps path

/-- The last segment, unless it goes up. -/
def fileName? (path : String) : Option String := (steps path).getLast?.filter (· != "..")

/-- The part of a name behind its last dot. A dot at the start of a name begins no extension. -/
def extensionOf? (name : String) : Option String :=
  match (name.splitOn ".").reverse with
  | last :: before => if before.isEmpty || before == [""] then none else some last
  | [] => none

/-- The extension of the file that a path names. -/
def extension? (path : String) : Option String := (fileName? path).bind extensionOf?

end ClusterMonitor.Path

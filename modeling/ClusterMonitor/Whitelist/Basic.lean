import ClusterMonitor.Dict

/-!
# Service whitelists

Which metrics are collected: for each service its components, and for each component the headers of
its metrics. Being listed means something on each level, so the empty component list of a service and
the empty header list of a component are not the same as no entry.

* `MetricHeader.matches` — the paths that belong to a header.
* `Whitelist` — the three levels; `Whitelist.headers?` looks down to the last.
* `Whitelist.withService` and `Whitelist.withComponent` — building a whitelist step by step.
-/

namespace ClusterMonitor

/-- A group of metrics, such as `jvm`. -/
abbrev MetricHeader := String

namespace MetricHeader

/-- What separates the segments of a metric path. -/
def isSeparator (c : Char) : Bool := c == '/' || c == '.'

/-- The segments of a path between separators, empty ones left out. `current` holds the characters
of the segment under way, the newest first. -/
def segmentsFrom (current : List Char) : List Char → List (List Char)
  | [] => if current.isEmpty then [] else [current.reverse]
  | c :: cs =>
    if isSeparator c then
      if current.isEmpty then segmentsFrom [] cs else current.reverse :: segmentsFrom [] cs
    else segmentsFrom (c :: current) cs

/-- The non-empty segments of a path. -/
def segments (path : String) : List String :=
  (segmentsFrom [] path.toList).map String.ofList

/-- The segment that names the group of a metric: the first one, one leading `metrics` skipped. -/
def group? (path : String) : Option String :=
  match segments path with
  | "metrics" :: rest => rest.head?
  | names => names.head?

/-- Does a metric path belong to the header? -/
def «matches» (header : MetricHeader) (path : String) : Bool := group? path == some header

end MetricHeader

/-- The listed components of a service with their metric headers. -/
abbrev Components := Dict (List MetricHeader)

/-- The listed services with their components. -/
abbrev Whitelist := Dict Components

namespace Whitelist

/-- Lists a service; what it lists already stays. -/
def withService (w : Whitelist) (service : String) : Whitelist :=
  if Dict.contains w service then w else Dict.set w service []

/-- Lists a component of a service with its headers, in place of what was said of it before. -/
def withComponent (w : Whitelist) (service component : String) (headers : List MetricHeader) :
    Whitelist :=
  Dict.set w service (Dict.set ((Dict.get? w service).getD []) component headers)

/-- The names of the listed services. -/
def services (w : Whitelist) : List String := Dict.keys w

/-- The components of a listed service. -/
def components? (w : Whitelist) (service : String) : Option Components := Dict.get? w service

/-- The headers of a listed component. -/
def headers? (w : Whitelist) (service component : String) : Option (List MetricHeader) :=
  (Dict.get? w service).bind fun components => Dict.get? components component

end Whitelist

end ClusterMonitor

import ClusterMonitor.Config.Error
import ClusterMonitor.Report.Diagnostic
import ClusterMonitor.Unicode.Word
import ClusterMonitor.Whitelist.Basic

/-!
# Whitelists in documents

A whitelist is read from the `services` mapping of an instance. A malformed service or component is
reported and left out; the others are kept.

* `WhitelistFault` — the causes for which a subtree is left out.
* `Whitelist.headersOf` — the headers of one component.
* `Whitelist.read` — a whole mapping, with a report for each subtree that is left out.
* `Whitelist.toValue` — the document form.
* `ServiceSelection` — the services that an instance is restricted to, if it is.
-/

namespace ClusterMonitor

/-- Why a subtree of a whitelist is left out. -/
inductive WhitelistFault where
  | componentsNotMapping (found : String)
  | headersNotSequence (found : String)
  | blankHeader
  | headerNotString (found : String)
deriving DecidableEq, Repr

def WhitelistFault.message : WhitelistFault → String
  | .componentsNotMapping found => s!"components must be a mapping, got {found}"
  | .headersNotSequence found => s!"metric headers must be a sequence, got {found}"
  | .blankHeader => "metric headers must not be empty"
  | .headerNotString found => s!"metric headers must be strings, got {found}"

namespace Whitelist

/-- The header that an item of a header list stands for. -/
def headerOf : Value → Except WhitelistFault MetricHeader
  | .string text => if Unicode.isBlankText text then .error .blankHeader else .ok text
  | v => .error (.headerNotString v.describe)

/-- The headers of a component; the first bad item spoils the list. -/
def headersOf : Value → Except WhitelistFault (List MetricHeader)
  | .array items => items.mapM headerOf
  | v => .error (.headersNotSequence v.describe)

/-- The report on a subtree that is left out. -/
def report (index : Nat) (service : String) (component : Option String) (fault : WhitelistFault) :
    Diagnostic :=
  let e := ConfigError.malformedWhitelist service component fault.message
  .error e.code (.subtree index service component) e.message

/-- The components of a service, the malformed ones left out. -/
def readComponents (index : Nat) (service : String) : Dict Value → Components × List Diagnostic
  | [] => ([], [])
  | (component, v) :: rest =>
    let (components, reports) := readComponents index service rest
    match headersOf v with
    | .ok headers => ((component, headers) :: components, reports)
    | .error fault => (components, report index service (some component) fault :: reports)

/-- The components of one service; nothing, with a report, if they are malformed as a whole. -/
def readService (index : Nat) (service : String) :
    Value → Option Components × List Diagnostic
  | .object members =>
    let (components, reports) := readComponents index service members
    (some components, reports)
  | .null => (some [], [])
  | v => (none, [report index service none (.componentsNotMapping v.describe)])

/-- The whitelist of the instance with this index. -/
def read (index : Nat) : Dict Value → Whitelist × List Diagnostic
  | [] => ([], [])
  | (service, v) :: rest =>
    let (listed, reports) := readService index service v
    let (whitelist, later) := read index rest
    match listed with
    | some components => ((service, components) :: whitelist, reports ++ later)
    | none => (whitelist, reports ++ later)

/-- The document form of the components of a service. -/
def componentsValue (components : Components) : Value :=
  .object (Dict.mapValues Value.ofStrings components)

/-- The document form. -/
def toValue (w : Whitelist) : Value := .object (Dict.mapValues componentsValue w)

end Whitelist

/-- The services that are eligible for checks. -/
inductive ServiceSelection where
  /-- Every service and component. -/
  | unrestricted
  /-- The listed ones. -/
  | listed (whitelist : Whitelist)
deriving DecidableEq, Repr

namespace ServiceSelection

/-- The whitelist, if there is one. -/
def whitelist? : ServiceSelection → Option Whitelist
  | .listed w => some w
  | .unrestricted => none

/-- The selection of an instance whose `services` are this value: without a mapping nothing is
restricted. -/
def read (index : Nat) : Option Value → ServiceSelection × List Diagnostic
  | some (.object services) =>
    let (whitelist, reports) := Whitelist.read index services
    (.listed whitelist, reports)
  | _ => (.unrestricted, [])

end ServiceSelection

end ClusterMonitor

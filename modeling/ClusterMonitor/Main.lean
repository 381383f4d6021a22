import ClusterMonitor.CommandLine.Action
import ClusterMonitor.CommandLine.Command
import ClusterMonitor.Config.Store

/-!
# The program

Collects what a command needs from the file system and the environment, runs it, and prints.
-/

open ClusterMonitor ClusterMonitor.CommandLine

namespace ClusterMonitor.Program

/-- The variables in the block that the system keeps for a process. -/
def variablesOf (block : List UInt8) : Environment :=
  (Text.splitLines 0 block).filterMap fun entry =>
    let cs := Text.decodeLossy entry
    match cs.dropWhile (· != '=') with
    | _ :: value => some (String.ofList (cs.takeWhile (· != '=')), String.ofList value)
    | [] => none

/-- The bytes of a file, if it can be read. -/
def readBytes? (path : String) : IO (Option (List UInt8)) := do
  try
    let bytes ← IO.FS.readBinFile path
    return some bytes.toList
  catch _ => return none

/-- The variables of the environment. -/
def environment : IO Environment := do
  return variablesOf ((← readBytes? "/proc/self/environ").getD [])

/-- The surroundings of a run that may look at some files. -/
def surroundings (paths : List String) : IO Surroundings := do
  let files ← paths.filterMapM fun path => do
    return (← readBytes? path).map fun bytes => (path, bytes)
  return { files, environment := ← environment }

/-- Says why nothing was done. -/
def failWith (reason : String) : IO UInt32 := do
  IO.eprintln s!"Error: {reason}"
  return 1

/-- Prints what a command has printed, or why it failed. -/
def finish {α : Type} (code : α → UInt32) : Except Failure (Printed α) → IO UInt32
  | .ok p => do
    IO.print p.text
    return code p.answer
  | .error f => failWith f.message

/-- The counts of a configuration on a line. -/
def snapshotLine (c : Configuration) : String :=
  s!"{c.validInstances.length} valid, {c.failedInstances.length} failed, " ++
    s!"{c.diagnostics.length} diagnostics"

/-- Reloads a store whenever its file has changed. -/
partial def watchLoop (path : String) (seen : Option (List UInt8)) (store : Store) : IO UInt32 := do
  IO.sleep 200
  let now ← readBytes? path
  if now == seen then watchLoop path seen store
  else
    let (store, result) := store.reload (← surroundings [path])
    match result with
    | .ok c => IO.println (snapshotLine c)
    | .error e => IO.eprintln s!"Reload of {path} failed [{e.code}]: {redact e.message}"
    watchLoop path now store

/-- Watches a file until the program is stopped. -/
def watch (path : String) : IO UInt32 := do
  let opened := Store.ofEngine (.ofFile path) (← surroundings [path])
  match opened, watchTarget path with
  | .ok store, .ok _ =>
    IO.println (snapshotLine store.current)
    watchLoop path (← readBytes? path) store
  | .error e, _ => failWith e.message
  | _, .error e => failWith e.message

/-- Runs a command. -/
def run (style : Style) : Command → IO UInt32
  | .validate file dump => do
    let around ← surroundings [file]
    finish (fun valid => if valid then 0 else 1) (Action.validate around style file dump)
  | .plan file index service component json => do
    let around ← surroundings [file]
    finish (fun () => 0) (Action.plan around style file index service component json)
  | .example withLogs => finish (fun () => 0) (Action.template withLogs)
  | .coalesce logFile file routeAs json => do
    let around ← surroundings (logFile :: file.toList)
    finish (fun _ => 0) (Action.coalesce around style logFile file routeAs json)
  | .watch file => watch file
  | .completions shell => failWith s!"no completions for {shell.text}"

/-- Says why a command line is not followed, or shows what was asked for. -/
def explain : UsageError → IO UInt32
  | .help => do
    IO.print helpText
    return 0
  | .version => do
    IO.println programName
    return 0
  | .helpForNothing => do
    IO.eprint helpText
    return 2
  | e => do
    IO.eprintln s!"error: {e.message}"
    return 2

end ClusterMonitor.Program

/-- Follows a command line. -/
def main (args : List String) : IO UInt32 := do
  match Invocation.ofWords args with
  | .error e => Program.explain e
  | .ok i =>
    let terminal ← (← IO.getStdout).isTty
    Program.run (if terminal then .coloured else .plain) i.command

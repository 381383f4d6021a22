import ClusterMonitor.CommandLine.Usage

/-!
# Commands

The command line of the program: its commands with their arguments, and the settings that all of
them share, which may stand before or behind the name of the command.

* `Command` — what the program is asked to do; `Invocation` — that with the settings.
* `Invocation.ofWords` — reads a command line.
-/

namespace ClusterMonitor.CommandLine

/-- What the program is asked to do. -/
inductive Command where
  /-- Load a file and report every problem found. -/
  | validate (file : String) (dump : Bool)
  /-- Show what an instance would check for a service or a component. -/
  | plan (file : String) (index : Nat) (service : String) (component : Option String)
    (json : Bool)
  /-- Print an example document. -/
  | «example» (withLogs : Bool)
  /-- Run a log file through the log sources and print the records. -/
  | coalesce (logFile : String) (config routeAs : Option String) (json : Bool)
  /-- Reload a file whenever it changes. -/
  | watch (file : String)
  /-- Generate completions for a shell. -/
  | completions (shell : Shell)
deriving DecidableEq, Repr

/-- A command with the settings of the logger. -/
structure Invocation where
  command : Command
  logger : LoggerSettings
deriving DecidableEq, Repr

namespace Given

def text? (g : Given) (name : String) : Option String :=
  match g.lookup name with
  | some (.text s) => some s
  | some (.path s) => some s
  | _ => none

def text (g : Given) (name : String) : String := (text? g name).getD ""

def count (g : Given) (name : String) : Nat :=
  match g.lookup name with
  | some (.count n) => n
  | _ => 0

def isSet (g : Given) (name : String) : Bool := (g.lookup name).isSome

end Given

/-- The options that may stand anywhere. -/
def sharedOptions : List NamedOption :=
  [⟨"log-level", none, .take .text⟩, ⟨"log-format", none, .take .format⟩,
    ⟨"log-dir", none, .take .path⟩, ⟨"help", some 'h', .help⟩]

/-- A command by its name: its arguments, and what they ask for. -/
structure CommandEntry where
  name : String
  /-- What the command does, as the help says it. -/
  about : String
  arguments : List PlainArgument := []
  options : List NamedOption := []
  command : Given → Command

namespace CommandEntry

def usage (e : CommandEntry) : Usage :=
  { options := e.options ++ sharedOptions, arguments := e.arguments }

def jsonOption : NamedOption := ⟨"json", none, .set⟩

/-- All commands. -/
def all : List CommandEntry :=
  [{ name := "validate"
     about := "Load a configuration file and report every problem found"
     arguments := [⟨"file", .path, true⟩], options := [⟨"dump", none, .set⟩]
     command := fun g => .validate (Given.text g "file") (Given.isSet g "dump") },
   { name := "plan"
     about := "Show what an instance would check for a service or component"
     arguments :=
      [⟨"file", .path, true⟩, ⟨"service", .text, true⟩, ⟨"component", .text, false⟩]
     options := [⟨"instance", some 'i', .take .count⟩, jsonOption]
     command := fun g =>
      .plan (Given.text g "file") (Given.count g "instance") (Given.text g "service")
        (Given.text? g "component") (Given.isSet g "json") },
   { name := "example"
     about := "Print an example document generated from the schema"
     options := [⟨"no-logs", none, .set⟩]
     command := fun g => .example (!Given.isSet g "no-logs") },
   { name := "coalesce"
     about := "Run a log file through the log sources and print the records"
     arguments := [⟨"logfile", .path, true⟩]
     options :=
      [⟨"config", some 'c', .take .path⟩, ⟨"route-as", none, .take .path⟩, jsonOption]
     command := fun g =>
      .coalesce (Given.text g "logfile") (Given.text? g "config") (Given.text? g "route-as")
        (Given.isSet g "json") },
   { name := "watch"
     about := "Reload a configuration file whenever it changes"
     arguments := [⟨"file", .path, true⟩]
     command := fun g => .watch (Given.text g "file") },
   { name := "completions"
     about := "Generate shell completions"
     arguments := [⟨"shell", .shell, true⟩]
     command := fun g =>
      match g.lookup "shell" with
      | some (.shell s) => .completions s
      | _ => .completions .bash }]

/-- The command with this name. -/
def ofName? (name : String) : Option CommandEntry := all.find? (·.name == name)

end CommandEntry

/-- The name of the command that shows the help of another one. -/
def helpCommand : String := "help"

/-- The arguments of the program itself. -/
def rootUsage : Usage :=
  { options := sharedOptions ++ [⟨"version", some 'V', .version⟩]
    commands := CommandEntry.all.map (·.name) ++ [helpCommand] }

/-- The least level of log lines if none is given. -/
def defaultLevel : String := "warn"

/-- The settings of the logger. What is given first counts. -/
def loggerSettings (g : Given) : LoggerSettings :=
  { level := (Given.text? g "log-level").getD defaultLevel
    format := match g.lookup "log-format" with
      | some (.format f) => f
      | _ => .pretty
    directory := Given.text? g "log-dir" }

/-- The name of the program. -/
def programName : String := "ambari-check"

/-- What the help says. -/
def helpText : String :=
  let entries := CommandEntry.all.map fun e => s!"  {e.name}: {e.about}\n"
  s!"Usage: {programName} [OPTIONS] <COMMAND>\n\nCommands:\n" ++ String.join entries

/-- What becomes of a call for help on a command. -/
def helpOn : List String → UsageError
  | [] => .help
  | [name] => if rootUsage.commands.contains name then .help else .unknownCommand name
  | name :: next :: _ => .unknownCommand (if rootUsage.commands.contains name then next else name)

namespace Invocation

/-- The invocation of a command whose own arguments are to be read, after what was read before its
name. Faults behind the name of the command come first. -/
def ofCommand (r : Reading) (e : CommandEntry) (words : List String) :
    Except UsageError Invocation := do
  let own ← e.usage.read words
  let before ← r.settle
  .ok ⟨e.command own, loggerSettings (own ++ before.given)⟩

/-- The end of a line without a command. -/
def ofNothing (r : Reading) : Except UsageError Invocation := do
  let r ← r.settle
  .error (if r.given.isEmpty then .helpForNothing else .missingCommand)

/-- Reads words up to the name of a command, and the rest by that command. -/
def read (r : Reading) : List String → Except UsageError Invocation
  | [] => ofNothing r
  | word :: rest =>
    let isName := !r.onlyPlain && !r.awaiting
    if isName && word == helpCommand then .error (helpOn rest)
    else
      match if isName then CommandEntry.ofName? word else none with
      | some e => ofCommand r e rest
      | none =>
        match rootUsage.step r word with
        | .ok r => read r rest
        | .error fault => .error fault

/-- Reads a command line behind the name of the program. -/
def ofWords (words : List String) : Except UsageError Invocation := read {} words

end Invocation

end ClusterMonitor.CommandLine

import ClusterMonitor.Decimal.Read
import ClusterMonitor.Logger

/-!
# Usage of a command

What arguments a command takes, and how the words of a command line are read by that: long options
(`--name value`, `--name=value`), single letters (`-n value`, `-nvalue`, `-n=value`, several flags
in one word), arguments without names in their order, and `--`, behind which every word is such an
argument.

* `Usage` — the options and the arguments of a command, and the commands below it.
* `Reading` — what has been read so far. A value is looked at when the next word asks for it, not
  when it is met, so of two faults the one in a later word may be reported.
* `Usage.step` — one word; `Usage.finish` — the end of the line.
-/

namespace ClusterMonitor.CommandLine

/-- The shells that completions can be made for. -/
inductive Shell where
  | bash
  | elvish
  | fish
  | powershell
  | zsh
deriving DecidableEq, Repr

/-- The shells by name. -/
def Shell.byName : List (String × Shell) :=
  [("bash", .bash), ("elvish", .elvish), ("fish", .fish), ("powershell", .powershell),
    ("zsh", .zsh)]

def Shell.text : Shell → String
  | .bash => "bash"
  | .elvish => "elvish"
  | .fish => "fish"
  | .powershell => "powershell"
  | .zsh => "zsh"

/-- Why a command line is not followed. -/
inductive UsageError where
  | unknownArgument (word : String)
  | missingArgument (name : String)
  /-- No value, or none of those that can be. -/
  | invalidValue (name : String)
  /-- A value that cannot be understood. -/
  | rejectedValue (name value : String)
  | unexpectedValue (name : String)
  | repeatedArgument (name : String)
  | unknownCommand (word : String)
  | missingCommand
  /-- The help was asked for. -/
  | help
  /-- The help is shown since nothing was asked for. -/
  | helpForNothing
  /-- The version was asked for. -/
  | version
deriving DecidableEq, Repr

def UsageError.message : UsageError → String
  | .unknownArgument word => s!"unexpected argument '{word}'"
  | .missingArgument name => s!"the required argument <{name}> was not provided"
  | .invalidValue name => s!"no usable value for '{name}'"
  | .rejectedValue name value => s!"invalid value '{value}' for '{name}'"
  | .unexpectedValue name => s!"unexpected value for '{name}'"
  | .repeatedArgument name => s!"the argument '{name}' cannot be used multiple times"
  | .unknownCommand word => s!"unrecognized subcommand '{word}'"
  | .missingCommand => "a subcommand is required"
  | .help => "help"
  | .helpForNothing => "help"
  | .version => "version"

/-- The value of an argument. -/
inductive ArgumentValue where
  /-- A flag that is set. -/
  | flag
  | text (s : String)
  | path (s : String)
  | count (n : Nat)
  | format (f : LogFormat)
  | shell (s : Shell)
deriving DecidableEq, Repr

/-- What the value of an argument has to be. -/
inductive ValueKind where
  | text
  | path
  | count
  | format
  | shell
deriving DecidableEq, Repr

/-- The number that a text spells: digits, with a plus sign or without. -/
def count? (text : String) : Option Nat :=
  let digits := match text.toList with
    | '+' :: rest => rest
    | cs => cs
  if digits.isEmpty || !digits.all Char.isDigit then none
  else
    let n := Decimal.natOfDigits digits
    if n < Nat.pow 2 64 then some n else none

/-- The value that a text stands for. -/
def ValueKind.read (kind : ValueKind) (name text : String) : Except UsageError ArgumentValue :=
  match kind with
  | .text => .ok (.text text)
  | .path => if text.isEmpty then .error (.invalidValue name) else .ok (.path text)
  | .count =>
    match count? text with
    | some n => .ok (.count n)
    | none => .error (.rejectedValue name text)
  | .format =>
    match LogFormat.ofName? text with
    | some f => .ok (.format f)
    | none => .error (.rejectedValue name text)
  | .shell =>
    match Shell.byName.lookup text with
    | some s => .ok (.shell s)
    | none => .error (.invalidValue name)

/-- What an option does. -/
inductive OptionAction where
  /-- Takes a value. -/
  | take (kind : ValueKind)
  | set
  | help
  | version
deriving DecidableEq, Repr

/-- An option, with its long name and perhaps a letter. -/
structure NamedOption where
  name : String
  letter : Option Char := none
  action : OptionAction
deriving DecidableEq, Repr

/-- An argument without a name on the line. -/
structure PlainArgument where
  name : String
  kind : ValueKind
  required : Bool := true
deriving DecidableEq, Repr

/-- The arguments of a command. -/
structure Usage where
  options : List NamedOption
  arguments : List PlainArgument := []
  /-- The names of the commands below this one. -/
  commands : List String := []
deriving DecidableEq, Repr

/-- The arguments that have been given, by name. -/
abbrev Given := List (String × ArgumentValue)

/-- An argument whose value is yet to be looked at, or to come. -/
structure Pending where
  name : String
  kind : ValueKind
  text : Option String
deriving DecidableEq, Repr

/-- What has been read of a command line. -/
structure Reading where
  given : Given := []
  pending : Option Pending := none
  /-- The next word is the value of an option, if it does not look like one itself. -/
  awaiting : Bool := false
  /-- How many arguments without names there have been. -/
  position : Nat := 0
  /-- Every further word is an argument without a name. -/
  onlyPlain : Bool := false
deriving DecidableEq, Repr

namespace Reading

/-- Notes the value of an argument, which must not have one yet. -/
def note (r : Reading) (name : String) (value : Except UsageError ArgumentValue) :
    Except UsageError Reading :=
  if (r.given.lookup name).isSome then .error (.repeatedArgument name)
  else value.map fun v => { r with given := r.given ++ [(name, v)] }

/-- Looks at the value that is pending. -/
def settle (r : Reading) : Except UsageError Reading :=
  match r.pending with
  | none => .ok r
  | some ⟨name, _, none⟩ => .error (.invalidValue name)
  | some ⟨name, kind, some text⟩ =>
    { r with pending := none, awaiting := false }.note name (kind.read name text)

end Reading

/-- The forms of words. -/
inductive Word where
  /-- Two dashes. -/
  | separator
  | long (name : String) (value : Option String)
  | letters (letters : List Char)
  | plain
deriving DecidableEq, Repr

/-- The form of a word. -/
def Word.ofText (word : String) : Word :=
  match word.toList with
  | ['-', '-'] => .separator
  | '-' :: '-' :: rest =>
    let name := rest.takeWhile (· != '=')
    match rest.dropWhile (· != '=') with
    | _ :: value => .long (String.ofList name) (some (String.ofList value))
    | [] => .long (String.ofList name) none
  | '-' :: c :: rest => .letters (c :: rest)
  | _ => .plain

namespace Usage

/-- An option that takes no value. -/
def set (r : Reading) (o : NamedOption) : Except UsageError Reading := do
  let r ← r.settle
  match o.action with
  | .help => .error .help
  | .version => .error .version
  | _ => r.note o.name (.ok .flag)

/-- An option that takes a value, which may be part of its word. -/
def take (r : Reading) (o : NamedOption) (kind : ValueKind) (value : Option String) :
    Except UsageError Reading := do
  let r ← r.settle
  match value with
  | some text => r.note o.name (kind.read o.name text)
  | none => .ok { r with pending := some ⟨o.name, kind, none⟩, awaiting := true }

/-- A long option. -/
def long (u : Usage) (r : Reading) (name : String) (value : Option String) :
    Except UsageError Reading :=
  match u.options.find? (·.name == name) with
  | none => .error (.unknownArgument ("--" ++ name))
  | some o =>
    match o.action, value with
    | .take kind, _ => take r o kind value
    | _, some _ => .error (.unexpectedValue name)
    | _, none => set r o

/-- Options by their letters. What follows one that takes a value is that value. -/
def letters (u : Usage) (r : Reading) : List Char → Except UsageError Reading
  | [] => .ok r
  | c :: rest =>
    match u.options.find? (·.letter == some c) with
    | none => .error (.unknownArgument (String.ofList ['-', c]))
    | some o =>
      match o.action, rest with
      | .take kind, [] => take r o kind none
      | .take kind, '=' :: value => take r o kind (some (String.ofList value))
      | .take kind, value => take r o kind (some (String.ofList value))
      | _, _ =>
        match set r o with
        | .ok r => letters u r rest
        | .error e => .error e

/-- What a word is that has no place among the arguments. -/
def surplus (u : Usage) (r : Reading) (word : String) : UsageError :=
  if u.commands.isEmpty || (r.onlyPlain && u.commands.contains word) then .unknownArgument word
  else .unknownCommand word

/-- An argument without a name. -/
def plain (u : Usage) (r : Reading) (word : String) : Except UsageError Reading :=
  match u.arguments[r.position]? with
  | none => .error (u.surplus r word)
  | some a => do
    let r ← r.settle
    .ok { r with pending := some ⟨a.name, a.kind, some word⟩, position := r.position + 1 }

/-- Gives a word to the option that awaits its value. -/
def fill (r : Reading) (word : String) : Reading :=
  { r with pending := r.pending.map fun p => { p with text := some word }, awaiting := false }

/-- Reads a word. -/
def step (u : Usage) (r : Reading) (word : String) : Except UsageError Reading :=
  if r.onlyPlain then u.plain r word
  else
    match Word.ofText word with
    | .separator => .ok { r with onlyPlain := true }
    | .long name value => u.long r name value
    | .letters cs => u.letters r cs
    | .plain => if r.awaiting then .ok (fill r word) else u.plain r word

/-- The first argument that is missing. -/
def missing? (u : Usage) (given : Given) : Option PlainArgument :=
  u.arguments.find? fun a => a.required && (given.lookup a.name).isNone

/-- The end of the line. -/
def finish (u : Usage) (r : Reading) : Except UsageError Given := do
  let r ← r.settle
  match u.missing? r.given with
  | some a => .error (.missingArgument a.name)
  | none => .ok r.given

/-- Reads the words of a command that has no commands below it. -/
def read (u : Usage) (words : List String) : Except UsageError Given := do
  let r ← words.foldlM u.step {}
  u.finish r

end Usage

end ClusterMonitor.CommandLine

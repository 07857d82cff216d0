/-
InlineSearch.CommandLine.Arguments — the arguments of the program.

Arguments are read one after the other, and the first that decides the
matter counts: a request for help or for the version, or something that
is not acceptable. A switch may be given once; switches with a letter may
be written together behind one dash. The one option with a value takes it
from behind its name or from the next argument, and falls back to an
environment variable.
-/
import InlineSearch.Config.Environment

namespace InlineSearch.CommandLine

/-! ## Options -/

/-- An option that is on or off. -/
inductive Switch where
  /-- Print results instead of overwriting files. -/
  | stdout
  /-- Keep no copies of overwritten files. -/
  | noBackup
  /-- Append a report. -/
  | report
  /-- Tell more about the run. -/
  | verbose
  /-- Search in any order. -/
  | parallel
  /-- List the triggers instead of searching. -/
  | listSearches
deriving DecidableEq, Repr

namespace Switch

/-- Every switch. -/
def all : List Switch := [stdout, noBackup, report, verbose, parallel, listSearches]

/-- The name of a switch. -/
def name : Switch → Text
  | stdout => "stdout"
  | noBackup => "no-backup"
  | report => "report"
  | verbose => "verbose"
  | parallel => "parallel"
  | listSearches => "list-searches"

/-- The letter of a switch, if it has one. -/
def letter? : Switch → Option Char
  | stdout => some 's'
  | _ => none

end Switch

/-- What the program is asked to do. -/
structure Options where
  files : List Text := []
  switches : List Switch := []
  /-- The configuration file. -/
  config : Option Text := none
deriving DecidableEq, Repr

/-- Whether a switch is on. -/
def Options.has (o : Options) (switch : Switch) : Bool := o.switches.contains switch

/-- What ends the reading of arguments early. -/
inductive Verdict where
  | help
  | version
  | unacceptable
deriving DecidableEq, Repr

/-! ## Reading -/

/-- How far the arguments are read. -/
structure Reading where
  options : Options := {}
  /-- The next argument is the configuration file. -/
  awaitsConfig : Bool := false
  /-- All further arguments are files. -/
  onlyFiles : Bool := false
deriving DecidableEq, Repr

namespace Reading

/-- Takes in the configuration file, which is asked for once. -/
def setConfig (r : Reading) (path : Text) : Except Verdict Reading :=
  if path.isEmpty || r.options.config.isSome then .error .unacceptable
  else .ok { r with options := { r.options with config := some path }, awaitsConfig := false }

/-- Takes in a file. -/
def addFile (r : Reading) (path : Text) : Except Verdict Reading :=
  if path.isEmpty then .error .unacceptable
  else .ok { r with options := { r.options with files := r.options.files ++ [path] } }

/-- Turns a switch on. -/
def turnOn (r : Reading) (switch : Switch) : Except Verdict Reading :=
  if r.options.has switch then .error .unacceptable
  else .ok { r with options := { r.options with switches := r.options.switches ++ [switch] } }

/-- Takes in an option by its name, without a value behind the name. -/
def addNamed (r : Reading) (name : Text) : Except Verdict Reading :=
  if name = ("help" : Text) then .error .help
  else if name = ("version" : Text) then .error .version
  else if name = ("config" : Text) then
    if r.options.config.isSome then .error .unacceptable else .ok { r with awaitsConfig := true }
  else
    match Switch.all.find? (·.name == name) with
    | some switch => r.turnOn switch
    | none => .error .unacceptable

/-- Takes in an option by its name and perhaps a value behind an equals
sign. -/
def addLong (r : Reading) (written : Text) : Except Verdict Reading :=
  match Text.cut "=" written with
  | some (name, value) =>
    if name = ("config" : Text) then r.setConfig value else .error .unacceptable
  | none => r.addNamed written

/-- Takes in options by their letters. -/
def addLetters (r : Reading) : Text → Except Verdict Reading
  | [] => .ok r
  | 'h' :: _ => .error .help
  | 'v' :: _ => .error .version
  | ['c'] => r.addNamed "config"
  | 'c' :: value => r.setConfig ((Text.dropPrefix? "=" value).getD value)
  | letter :: letters => do
    match Switch.all.find? (·.letter? == some letter) with
    | some switch => addLetters (← r.turnOn switch) letters
    | none => .error .unacceptable

/-- Takes in an argument. -/
def add (r : Reading) (argument : Text) : Except Verdict Reading :=
  if r.onlyFiles then r.addFile argument
  else if r.awaitsConfig then
    match argument with
    | '-' :: _ :: _ => .error .unacceptable
    | _ => r.setConfig argument
  else
    match argument with
    | ['-', '-'] => .ok { r with onlyFiles := true }
    | '-' :: '-' :: written => r.addLong written
    | '-' :: letter :: letters => r.addLetters (letter :: letters)
    | _ => r.addFile argument

end Reading

/-- The environment variable that names the configuration file. -/
def configVariable : Text := "SEARCHLINK_CONFIG"

/-- What arguments ask for. -/
def Options.ofArguments (env : Config.Environment) (arguments : List Text) :
    Except Verdict Options := do
  let r ← arguments.foldlM Reading.add {}
  if r.awaitsConfig then throw .unacceptable
  match r.options.config, env.value? configVariable with
  | none, some path => return (← r.setConfig path).options
  | _, _ => return r.options

end InlineSearch.CommandLine

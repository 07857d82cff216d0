/-
InlineSearch.CommandLine.Session — the state of a run of the program.

Beside the world, a run has what it printed, what it told the user on the
side, and what it put on the clipboard. A step of a run that fails ends
the run; what was done before stays done.
-/
import InlineSearch.CommandLine.Arguments
import InlineSearch.Config.Load
import InlineSearch.World.Basic

namespace InlineSearch.CommandLine

/-- What a run is given. -/
structure Setup where
  env : Config.Environment
  /-- What is on standard input. -/
  input : Text
  /-- The random number of the run. -/
  random : Nat
  /-- Why there is no clipboard, if there is none. -/
  clipboardFault : Option Text := none

/-- What a run does. -/
structure Session where
  world : World
  output : Text := []
  /-- Messages beside the output. -/
  messages : List Text := []
  clipboard : Option Text := none

/-- Why a run fails. -/
inductive Failure where
  | config (e : Config.LoadError)
  | file (path : Text) (e : FileError)
  | clipboard (reason : Text)
deriving DecidableEq, Repr

/-- What is said about a failure. -/
def Failure.message : Failure → Text
  | config e => e.message
  | file path e => path ++ ": " ++ e.message
  | clipboard reason => "Clipboard error: " ++ reason

/-- A step of a run. -/
abbrev Run (α : Type) := ExceptT Failure (StateM Session) α

namespace Session

/-- A step in the world as a step of a run. -/
def inWorld {α : Type} (step : StateM World α) : Run α := do
  let s ← get
  let (a, world) := step.run s.world
  set { s with world }
  return a

/-- Prints a text. -/
def print (t : Text) : Run Unit := modify fun s => { s with output := s.output ++ t }

/-- Tells the user something. -/
def tell (message : Text) : Run Unit :=
  modify fun s => { s with messages := s.messages ++ [message] }

/-- Puts a text on the clipboard. -/
def copy (setup : Setup) (t : Text) : Run Unit :=
  match setup.clipboardFault with
  | some reason => throw (.clipboard reason)
  | none => modify fun s => { s with clipboard := some t }

/-- The text of a file. -/
def read (path : Text) : Run Text := do
  match (← get).world.files.read path with
  | .ok t => return t
  | .error e => throw (.file path e)

/-- Writes a text to the file at `target`; a failure is one of the file at
`path`. -/
def write (path target t : Text) : Run Unit := do
  let s ← get
  match s.world.files.write target t with
  | .ok files => set { s with world := { s.world with files } }
  | .error e => throw (.file path e)

end Session

end InlineSearch.CommandLine

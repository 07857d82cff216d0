/-
InlineSearch.Main — the program.

All that is decided here is how the world of a run is filled and emptied:
the files that the run may look at are read before, and those that it
changed are written after. There is no network and no clipboard here, so
requests fail on the way and nothing can be copied.
-/
import InlineSearch.CommandLine.Run

namespace InlineSearch.Program

open CommandLine (Options Session Setup)

/-- The environment variables that are set. -/
def readEnvironment : IO Config.Environment := do
  let content ← IO.FS.readFile "/proc/self/environ"
  return { entries := content.toList.splitOn '\x00' }

/-- The code of the error that a place is a directory. -/
def directoryCode : UInt32 := 21

/-- The files with what is at a place. -/
def probe (files : Files) (place : Path) : IO Files := do
  match ← (IO.FS.readFile (String.ofList place.written)).toBaseIO with
  | .ok t => return { files with entries := (place, some t.toList) :: files.entries }
  | .error (.noFileOrDirectory ..) => return files
  | .error (.inappropriateType _ code _) =>
    return if code == directoryCode then { files with directories := place :: files.directories }
      else files
  | .error _ => return { files with entries := (place, none) :: files.entries }

/-- The files at some places. -/
def readFiles (places : List Path) : IO Files := places.eraseDups.foldlM probe {}

/-- Writes the files that a run changed. -/
def writeFiles (before after : Files) : IO Unit :=
  after.entries.forM fun (place, content) =>
    match content with
    | some t =>
      if before.entries.lookup place = some content then pure ()
      else IO.FS.writeFile (String.ofList place.written) (String.ofList t)
    | none => pure ()

/-- All that is on standard input. -/
def readInput : IO Text := do
  let stdin ← IO.getStdin
  let mut lines : List String := []
  let mut line ← stdin.getLine
  while !line.isEmpty do
    lines := line :: lines
    line ← stdin.getLine
  return (String.join lines.reverse).toList

/-- Prints what a run printed, and its messages beside that. -/
def report (s : Session) : IO Unit := do
  IO.print (String.ofList s.output)
  s.messages.forM fun message => IO.eprintln (String.ofList message)

/-- Runs the program. -/
def run (arguments : List Text) : IO UInt32 := do
  let env ← readEnvironment
  let home := Path.ofWritten ((env.value? "HOME").getD [])
  let options := (Options.ofArguments env arguments).toOption
  let files ← readFiles ((options.map (·.places home)).getD [])
  let setup : Setup := {
    env
    input := ← if options.any (·.readsInput) then readInput else pure []
    random := ← IO.rand 0 9999
    clipboardFault := some "no clipboard" }
  let (status, s) := CommandLine.run setup arguments { files, home }
  writeFiles files s.world.files
  report s
  if status == 2 then IO.eprintln "error: the arguments are not acceptable, try '--help'"
  return status.toUInt32

end InlineSearch.Program

def main (arguments : List String) : IO UInt32 :=
  InlineSearch.Program.run (arguments.map String.toList)

/-
InlineSearch.World.Files — a tree of files.

A path is the list of the names that lead to a place from the working
directory, or from the root if its first name is `/`. The directories
above the working directory have paths of their own, made of `..` alone.
Only files are listed, with what is written in them; the directories are
the places that listed files are below, besides those that are listed as
such and those above the working directory.

Names have at most 255 bytes, and written paths less than 4096.
-/
import InlineSearch.Text.Basic

namespace InlineSearch

/-- The names that lead to a place. -/
abbrev Path := List Text

namespace Path

/-- The root of absolute paths. -/
def root : Path := ["/"]

/-- The name of the directory that a directory is in. -/
def parentName : Text := ".."

/-- Whether a path leads from the working directory straight up. -/
def isUpward (p : Path) : Bool := p.all (· == parentName)

/-- The directory that a directory is in; the root is in itself. -/
def above (directory : Path) : Path :=
  if directory == root then root
  else if isUpward directory then parentName :: directory
  else directory.dropLast

/-- A path as it is written. -/
def written (p : Path) : Text :=
  match p with
  | ['/'] :: names => '/' :: Text.join "/" names
  | names => Text.join "/" names

/-- The place that a name leads to from a directory. -/
def step (directory : Path) (name : Text) : Path :=
  if name.isEmpty || name = ['.'] then directory
  else if name = parentName then above directory
  else directory ++ [name]

/-- The place where a written path starts. -/
def start (t : Text) : Path := if t.head? = some '/' then root else []

/-- The places that names lead to, one after the other. -/
def visitedFrom (directory : Path) : List Text → List Path
  | [] => []
  | name :: names => step directory name :: visitedFrom (step directory name) names

/-- The places that a written path leads through, its own the last. -/
def visited (t : Text) : List Path := visitedFrom (start t) (t.splitOn '/')

/-- The place that a written path means if it leads through directories. -/
def ofWritten (t : Text) : Path := (t.splitOn '/').foldl step (start t)

end Path

/-- A tree of files. -/
structure Files where
  /-- The files, each with its text if it holds one that can be read. -/
  entries : List (Path × Option Text) := []
  /-- Directories that may have no files. -/
  directories : List Path := []
  /-- Files that cannot be written. -/
  locked : List Path := []
deriving DecidableEq, Repr

/-- Why a file cannot be read or written. -/
inductive FileError where
  | missing
  | isDirectory
  /-- The path leads through a file. -/
  | notDirectory
  | locked
  | nameTooLong
  /-- What the file holds is no text. -/
  | notText
deriving DecidableEq, Repr

/-- What is said about an error. -/
def FileError.message : FileError → Text
  | missing => "No such file or directory (os error 2)"
  | isDirectory => "Is a directory (os error 21)"
  | notDirectory => "Not a directory (os error 20)"
  | locked => "Permission denied (os error 13)"
  | nameTooLong => "File name too long (os error 36)"
  | notText => "stream did not contain valid UTF-8"

namespace Files

/-! ## Places -/

/-- Whether a place is a file. -/
def isFile (f : Files) (p : Path) : Bool := (f.entries.lookup p).isSome

/-- Whether a place is a directory. -/
def isDirectory (f : Files) (p : Path) : Bool :=
  p.isUpward || p == Path.root || f.directories.contains p
    || f.entries.any fun (q, _) => p.isPrefixOf q && p != q

/-- The most bytes of a name. -/
def maxNameBytes : Nat := 255

/-- The most bytes of a written path. -/
def maxPathBytes : Nat := 4095

/-- The place that names lead to from a directory. All but the last have to
lead through directories. -/
def walk (f : Files) (directory : Path) : List Text → Except FileError Path
  | [] => .ok directory
  | [] :: names | ['.'] :: names => f.walk directory names
  | ['.', '.'] :: names => f.walk directory.above names
  | name :: names =>
    let place := directory ++ [name]
    if maxNameBytes < Text.bytes name then .error .nameTooLong
    else if names.isEmpty then .ok place
    else if f.isDirectory place then f.walk place names
    else .error (if f.isFile place then .notDirectory else .missing)

/-- The place that a written path means. -/
def locate (f : Files) (written : Text) : Except FileError Path :=
  if written.isEmpty then .error .missing
  else if maxPathBytes < Text.bytes written then .error .nameTooLong
  else f.walk (Path.start written) (written.splitOn '/')

/-- Whether there is a file or a directory at a written path. -/
def present (f : Files) (written : Text) : Bool :=
  match f.locate written with
  | .ok place => f.isFile place || f.isDirectory place
  | .error _ => false

/-! ## Reading and writing -/

/-- The text of the file at a place. -/
def readAt (f : Files) (place : Path) : Except FileError Text :=
  if f.isDirectory place then .error .isDirectory
  else
    match f.entries.lookup place with
    | some (some t) => .ok t
    | some none => .error .notText
    | none => .error .missing

/-- The files with a text written to a place. -/
def writeAt (f : Files) (place : Path) (t : Text) : Except FileError Files :=
  if f.isDirectory place then .error .isDirectory
  else if f.locked.contains place then .error .locked
  else .ok { f with entries := (place, some t) :: f.entries.filter (·.1 != place) }

/-- The text of the file at a written path. -/
def read (f : Files) (written : Text) : Except FileError Text := do
  f.readAt (← f.locate written)

/-- The files with a text written to a written path. -/
def write (f : Files) (written t : Text) : Except FileError Files := do
  f.writeAt (← f.locate written) t

end Files

end InlineSearch

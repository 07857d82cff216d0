/-
InlineSearch.Scope — the configuration in effect while a document is
processed.

Inline flags hold for their line. `openLine` opens a frame, `setFlags`
writes the value that an option had before into the innermost frame and
switches the option, and `restore` closes frames and puts the recorded
values back. `setForGood` changes an option for the rest of the document:
it also overwrites what open frames have recorded, so that closing them
keeps the new value.

A frame may record a value that does not fit its option; putting such a
value back changes nothing, as setting it did.
-/
import InlineSearch.Config.Basic
import InlineSearch.Directive.Flag

namespace InlineSearch

open Config (Key Value)

/-- The values that options had before a line changed them, the last
change first. -/
abbrev Frame := List (Key × Value)

/-- The configuration in effect, and the open frames, innermost first. -/
structure Scope where
  config : Config
  frames : List Frame := []
deriving DecidableEq, Repr

namespace Scope

/-- How many frames are open. A line is closed by restoring the depth from
before it was opened. -/
def depth (s : Scope) : Nat := s.frames.length

/-- Opens a frame. -/
def openLine (s : Scope) : Scope := { s with frames := [] :: s.frames }

/-- Switches an option and records its value in the innermost frame, which
is given apart. -/
def switch : Config × Frame → Directive.Flag → Config × Frame
  | (config, frame), (key, on) =>
    let frame := if frame.any (·.1 == key) then frame else (key, config.get key) :: frame
    (config.set key (.flag on), frame)

/-- Applies inline flags to the innermost frame. Where no frame is open
they have no effect. -/
def setFlags (s : Scope) (flags : List Directive.Flag) : Scope :=
  match s.frames with
  | [] => s
  | frame :: outer =>
    let (config, frame) := flags.foldl switch (s.config, frame)
    { config, frames := frame :: outer }

/-- The configuration with the recorded values put back. -/
def putBack (config : Config) (frame : Frame) : Config :=
  frame.foldl (fun config (key, value) => config.set key value) config

/-- Closes frames until `depth` of them are open. -/
def restore (s : Scope) (depth : Nat) : Scope :=
  let closing := s.frames.take (s.depth - depth)
  { config := closing.foldl putBack s.config, frames := s.frames.drop (s.depth - depth) }

/-- The frame with `value` as the value to put back, if it has recorded
the option. -/
def overwrite (key : Key) (value : Value) (frame : Frame) : Frame :=
  frame.map fun (recorded, prior) => (recorded, if recorded = key then value else prior)

/-- Sets an option for the rest of the document. -/
def setForGood (s : Scope) (key : Key) (value : Value) : Scope :=
  { config := s.config.set key value, frames := s.frames.map (overwrite key value) }

/-- The configuration that remains when every frame is closed. -/
def settled (s : Scope) : Config := (s.restore 0).config

end Scope

end InlineSearch

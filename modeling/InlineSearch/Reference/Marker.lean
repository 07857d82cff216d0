/-
InlineSearch.Reference.Marker — generated markers and footnote ids.

Both are numbers of at least four digits that count on from the highest
number in the document. A run that asks for random prefixes puts one
prefix before all of them: the first one in the document, or else the
run's random number.
-/
import InlineSearch.Reference.Definition

namespace InlineSearch.Reference

/-- The state of marker generation. -/
structure Markers where
  /-- The last number given to a reference. -/
  links : Nat
  /-- The last number given to a footnote. -/
  footnotes : Nat
  /-- What random markers begin with. -/
  randomPrefix : Text
deriving DecidableEq, Repr

/-- A number with at least four digits. -/
def fourDigits (n : Nat) : Text := (Text.ofNat n).leftpad 4 '0'

namespace Markers

/-- The greatest of some numbers, or zero. -/
def highest (ns : List Nat) : Nat := ns.foldl max 0

/-- Markers that continue those of a document, where a run whose random
number is `random` needs a prefix. -/
def ofDocument (random : Nat) (document : Text) : Markers where
  links := highest (numbers document)
  footnotes := highest (footnoteNumbers document)
  randomPrefix := ((prefixes document).head?).getD (fourDigits random ++ "-")

/-- What markers begin with. -/
def start (m : Markers) (random : Bool) : Text := if random then m.randomPrefix else []

/-- The number after `n`, as far as 64 bits go. -/
def next (n : Nat) : Nat := min (n + 1) Text.maxWord

/-- The next marker of a reference. -/
def freshLink (m : Markers) (random : Bool) : Text × Markers :=
  let n := next m.links
  (m.start random ++ fourDigits n, { m with links := n })

/-- The next id of a footnote. -/
def freshFootnote (m : Markers) (random : Bool) : Text × Markers :=
  let n := next m.footnotes
  (m.start random ++ "fn" ++ fourDigits n, { m with footnotes := n })

end Markers

end InlineSearch.Reference

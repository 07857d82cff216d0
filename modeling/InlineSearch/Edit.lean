/-
InlineSearch.Edit — replacing byte ranges of a line.

Edits are collected against a line that never changes and applied at
once, so that no replacement shifts the place of another. `apply` takes
them in the order of their starts (edits with one start keep the order in
which they were added) and skips an edit that begins before the end of
the last one applied, or whose range does not cut the line at characters.
-/
import InlineSearch.Text.Basic

namespace InlineSearch

/-- The replacement of the bytes from `start` up to `stop`. -/
structure Edit where
  start : Nat
  stop : Nat
  text : Text
deriving DecidableEq, Repr

namespace Edit

/-- What stands before an edit and what follows it, in the part of the
line from byte `cursor` on. Nothing if the edit does not fit there. -/
def fit? (cursor : Nat) (rest : Text) (e : Edit) : Option (Text × Text) := do
  guard (cursor ≤ e.start ∧ e.start ≤ e.stop)
  let (kept, here) ← Text.splitBytes? (e.start - cursor) rest
  let (_, after) ← Text.splitBytes? (e.stop - e.start) here
  return (kept, after)

/-- Applies edits in the given order to the part of the line from byte
`cursor` on. -/
def applyFrom (cursor : Nat) (rest : Text) : List Edit → Text
  | [] => rest
  | e :: es =>
    match fit? cursor rest e with
    | some (kept, after) => kept ++ e.text ++ applyFrom e.stop after es
    | none => applyFrom cursor rest es

/-- The edits in the order of their starts. -/
def inOrder (edits : List Edit) : List Edit := edits.mergeSort fun a b => a.start ≤ b.start

/-- The line with its edits applied. -/
def apply (edits : List Edit) (line : Text) : Text := applyFrom 0 line (inOrder edits)

end Edit

end InlineSearch

/-
InlineSearch.Text.Scan — repeated matching: the non-overlapping matches
of a pattern in a text, leftmost first.

* A `Pattern` is tried at one position. It sees the character before the
  position (none at the start of the text) and the text from there on,
  and answers with what it found and how many characters that took.
* `pieces` walks the text once and returns it as a list of single
  characters and hits. Everything else is a view of that list: `hits`
  keeps the hits, `substitute` replaces them and keeps the rest.

A pattern that takes no character never hits, so the walk always moves on.
-/
import InlineSearch.Text.Basic

namespace InlineSearch.Text

/-- What may be found at a position, given the character before it and
the text from it on: the number of characters taken, and the finding. -/
abbrev Pattern (α : Type) := Option Char → Text → Option (Nat × α)

/-- A character that belongs to no match, or a match. -/
inductive Piece (α : Type) where
  | char (c : Char)
  | hit (a : α)

/-- The pieces of the text that remains after its first `skip`
characters, which belong to a match already found. -/
def piecesFrom {α : Type} (p : Pattern α) : Nat → Option Char → Text → List (Piece α)
  | _, _, [] => []
  | skip + 1, _, c :: t => piecesFrom p skip (some c) t
  | 0, before, c :: t =>
    match p before (c :: t) with
    | some (taken + 1, a) => .hit a :: piecesFrom p taken (some c) t
    | _ => .char c :: piecesFrom p 0 (some c) t

/-- The text cut at the non-overlapping matches of a pattern. -/
def pieces {α : Type} (p : Pattern α) (t : Text) : List (Piece α) := piecesFrom p 0 none t

/-- What the matches of a pattern in a text found, left to right. -/
def hits {α : Type} (p : Pattern α) (t : Text) : List α :=
  (pieces p t).filterMap fun
    | .char _ => none
    | .hit a => some a

/-- The text with every match of a pattern replaced. -/
def substitute {α : Type} (p : Pattern α) (f : α → Text) (t : Text) : Text :=
  (pieces p t).flatMap fun
    | .char c => [c]
    | .hit a => f a

/-- The text with every match of a pattern removed. -/
def remove {α : Type} (p : Pattern α) (t : Text) : Text := substitute p (fun _ => []) t

/-- Whether a position that follows `before` starts a line. -/
def atLineStart (before : Option Char) : Bool := before.all (· == '\n')

end InlineSearch.Text

/-
InlineSearch.Text.Reader — reading a text from left to right.

A reader takes characters off the front of the text and answers with what
it read and with what remains, or fails. Alternatives (`<|>`) start again
from the same place.
-/
import InlineSearch.Text.Basic

namespace InlineSearch

/-- Reads something from the front of a text. -/
abbrev Reader (α : Type) := StateT Text Option α

namespace Reader

/-- The next character, which stays. -/
def peek? : Reader (Option Char) := fun t => some (t.head?, t)

/-- The next character. -/
def next : Reader Char
  | [] => none
  | c :: t => some (c, t)

/-- A character of a class. -/
def one (p : Char → Bool) : Reader Char
  | [] => none
  | c :: t => if p c then some (c, t) else none

/-- The next `n` characters. -/
def take (n : Nat) : Reader Text := fun t =>
  if n ≤ t.length then some (t.take n, t.drop n) else none

/-- The given text. -/
def expect (p : Text) : Reader Unit := fun t => (Text.dropPrefix? p t).map ((), ·)

/-- Whether the given text stands here; it is taken if it does. -/
def accept (p : Text) : Reader Bool := fun t =>
  match Text.dropPrefix? p t with
  | some rest => some (true, rest)
  | none => some (false, t)

/-- The end of the text. -/
def atEnd : Reader Unit
  | [] => some ((), [])
  | _ => none

/-- The characters of a class that stand here. -/
def run (p : Char → Bool) : Reader Text := fun t => some (t.takeWhile p, t.dropWhile p)

/-- The characters of a class that stand here, of which there is one. -/
def run1 (p : Char → Bool) : Reader Text := fun t =>
  let found := t.takeWhile p
  if found.isEmpty then none else some (found, t.dropWhile p)

/-- A reader that repeats itself, with as many turns as the text has
characters, and one more. -/
def repeating {α : Type} (r : Nat → Reader α) : Reader α := fun t => r (t.length + 1) t

/-- What a reader reads from a whole text. -/
def whole? {α : Type} (r : Reader α) (t : Text) : Option α :=
  match r t with
  | some (a, []) => some a
  | _ => none

end Reader

end InlineSearch

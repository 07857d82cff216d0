/-
InlineSearch.Text.FoldCase — comparing a text with ASCII words when case
is ignored.

Two characters beyond ASCII are case variants of ASCII letters, the long
s and the Kelvin sign. Every comparison that ignores case in the sense of
Unicode goes through `foldChar`, which maps all variants of an ASCII
letter to the small letter.
-/
import InlineSearch.Text.Basic

namespace InlineSearch.Text

/-- The small ASCII letter that a character is a case variant of, or the
character itself. -/
def foldChar (c : Char) : Char :=
  match c with
  | '\u017F' => 's'
  | '\u212A' => 'k'
  | c => c.toLower

/-- What follows a case variant of `p` at the start of the text. -/
def dropFolded? : Text → Text → Option Text
  | [], t => some t
  | _ :: _, [] => none
  | d :: p, c :: t => if foldChar d = foldChar c then dropFolded? p t else none

end InlineSearch.Text

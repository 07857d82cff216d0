/-
InlineSearch.Text.OneEdit — whether two texts differ by one edit.

An edit inserts one character, deletes one, or puts another in its place.
The common start of two texts decides nothing, so the test walks to the
first difference and compares what is left there.
-/
import InlineSearch.Text.Basic

namespace InlineSearch.Text

/-- Whether two texts differ by exactly one insertion, deletion or
substitution of a character. -/
def differByOne : Text → Text → Bool
  | [], b => b.length == 1
  | a, [] => a.length == 1
  | c :: a, d :: b =>
    if c = d then differByOne a b else a == b || c :: a == b || a == d :: b

end InlineSearch.Text

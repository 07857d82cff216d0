/-
InlineSearch.Text.CodeRange — sets of code points, as lists of closed
ranges.

The modules that hold a Unicode property list the ranges of its members
from U+0080 on, and give its ASCII members by a rule of their own, so
that statements about ASCII text never open a table.
-/
import InlineSearch.Text.Basic

namespace InlineSearch.Text

/-- Closed ranges of code points. -/
abbrev CodeRanges := List (Nat × Nat)

/-- Whether one of the ranges holds a character. -/
def CodeRanges.holds (ranges : CodeRanges) (c : Char) : Bool :=
  ranges.any fun (first, last) => first ≤ c.toNat && c.toNat ≤ last

/-- Whether a character belongs to a property that is `ascii` below
U+0080 and given by ranges from there on. -/
def hasProperty (ascii : Char → Bool) (ranges : CodeRanges) (c : Char) : Bool :=
  if c.toNat < 0x80 then ascii c else ranges.holds c

end InlineSearch.Text

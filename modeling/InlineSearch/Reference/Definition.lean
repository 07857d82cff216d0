/-
InlineSearch.Reference.Definition — reading the definitions that a
document already contains.

A reference definition is `[label]: target` at the start of a line, behind
at most three blanks; a label that begins with `^` belongs to a footnote.
Generated labels are numbers, with a random prefix of four digits or
without one (`0001`, `4821-0001`, `fn0001`); `numbers` and `footnoteNumbers`
read the numbers, `prefixes` the prefixes.
-/
import InlineSearch.Text.Blank
import InlineSearch.Text.Numeral

namespace InlineSearch.Reference

/-- What stands between an opening bracket at the start of a line and the
end of the text, with the number of characters up to there. The bracket
may be indented by three blanks. -/
def opened? (t : Text) : Option (Nat × Text) := do
  let indent := t.takeWhile Text.isBlank
  guard (indent.length ≤ 3)
  let rest ← Text.dropPrefix? "[" (t.dropWhile Text.isBlank)
  return (indent.length + 1, rest)

/-- A nonempty run of characters of a class, and what follows it. -/
def run? (p : Char → Bool) (t : Text) : Option (Text × Text) :=
  let run := t.takeWhile p
  if run.isEmpty then none else some (run, t.dropWhile p)

/-- Whether a character may stand inside a label. -/
def isLabelChar (c : Char) : Bool := c != ']'

/-- A reference definition: its label and its target. -/
def definition : Text.Pattern (Text × Text) := fun before t => do
  guard (Text.atLineStart before)
  let (_, opened) ← opened? t
  let (label, rest) ← run? isLabelChar opened
  guard (label.head? != some '^')
  let rest ← Text.dropPrefix? "]:" rest
  let (_, rest) ← run? Text.isBlank rest
  let (target, rest) ← run? (!Text.isBlank ·) rest
  return (t.length - rest.length, (label, target))

/-- The reference definitions of a document, as labels and targets. -/
def definitions (document : Text) : List (Text × Text) := Text.hits definition document

/-- Whether a line is a reference definition or a footnote definition. -/
def definesReference (line : Text) : Bool := Option.isSome do
  let (_, opened) ← opened? line
  let (_, rest) ← run? isLabelChar opened
  Text.dropPrefix? "]: " rest

/-! ## Generated labels -/

/-- Four decimal digits and a dash, and what follows them. -/
def randomPrefix? (t : Text) : Option (Text × Text) := do
  let digits := t.take 4
  guard (digits.length == 4 && digits.all Text.isDecimal)
  let rest ← Text.dropPrefix? "-" (t.drop 4)
  return (digits ++ "-", rest)

/-- The text without a random prefix at its start. -/
def dropRandomPrefix (t : Text) : Text :=
  match randomPrefix? t with
  | some (_, rest) => rest
  | none => t

/-- A generated label at the start of a line: the digits behind its
optional random prefix and the mark `kind`. -/
def generated (opening kind : Text) : Text.Pattern Text := fun before t => do
  guard (Text.atLineStart before)
  let (_, opened) ← opened? t
  let rest ← Text.dropPrefix? opening opened
  let rest ← Text.dropPrefix? kind (dropRandomPrefix rest)
  let (digits, rest) ← run? Text.isDecimal rest
  let rest ← Text.dropPrefix? "]: " rest
  return (t.length - rest.length, digits)

/-- The numbers that label reference definitions of a document. -/
def numbers (document : Text) : List Nat :=
  (Text.hits (generated [] []) document).filterMap Text.toWord?

/-- The numbers that label footnote definitions of a document. -/
def footnoteNumbers (document : Text) : List Nat :=
  (Text.hits (generated "^" "fn") document).filterMap Text.toWord?

/-- A reference definition anywhere in a text whose label is a number
behind a random prefix: the prefix. -/
def prefixed : Text.Pattern Text := fun _ t => do
  let rest ← Text.dropPrefix? "[" t
  let (pre, rest) ← randomPrefix? rest
  let (_, rest) ← run? Text.isDecimal rest
  let rest ← Text.dropPrefix? "]: " rest
  guard (rest.head?.any (!Text.isBlank ·))
  return (t.length - rest.length, pre)

/-- The random prefixes that label reference definitions of a document. -/
def prefixes (document : Text) : List Text := Text.hits prefixed document

end InlineSearch.Reference

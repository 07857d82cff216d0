/-
InlineSearch.Reference.Link — links as they are written.

A link is written inline, as a reference to a marker, or as the definition
of a marker. Titles are made safe for the quotes around them: line breaks
become spaces, double quotes and bars are replaced, and tracking
parameters are dropped.
-/
import InlineSearch.Text.Blank

namespace InlineSearch.Reference

/-! ## Titles -/

/-- A run of blanks that holds a line feed. -/
def lineBreak : Text.Pattern Unit := fun _ t =>
  let blanks := t.takeWhile Text.isBlank
  if blanks.contains '\n' then some (blanks.length, ()) else none

/-- Whether a character may stand in the name of a tracking parameter. -/
def isTrackingChar (c : Char) : Bool := c.isLower || c == '_'

/-- A tracking parameter behind `mark`, and the text that follows it. -/
def afterTracking? (mark : Char) (t : Text) : Option Text := do
  let rest ← Text.dropPrefix? (mark :: "utm_") t
  guard (rest.head?.any isTrackingChar)
  let rest ← Text.dropPrefix? "=" (rest.dropWhile isTrackingChar)
  return rest.dropWhile fun c => c != '&' && !Text.isBlank c

/-- A tracking parameter that is not the first. -/
def laterTracking : Text.Pattern Unit := fun _ t => do
  let rest ← afterTracking? '&' t
  return (t.length - rest.length, ())

/-- The first parameter where it is a tracking parameter, with the mark
that introduces the next one. -/
def firstTracking : Text.Pattern Unit := fun _ t => do
  let rest ← afterTracking? '?' t
  return (t.length - ((Text.dropPrefix? "&" rest).getD rest).length, ())

/-- A question mark that introduces no parameter. -/
def danglingMark : Text.Pattern Unit := fun _ t =>
  match t with
  | '?' :: rest => if rest.head?.all Text.isBlank then some (1, ()) else none
  | _ => none

/-- A title that is safe inside double quotes. -/
def titleText (title : Text) : Text :=
  let title := Text.substitute lineBreak (fun _ => " ") (Text.trim title)
  let title := Text.remove laterTracking title
  let title := Text.substitute firstTracking (fun _ => "?") title
  let title := Text.remove danglingMark title
  Text.trim (Text.replaceAll "|" "-" (Text.replaceAll "\x22" "&quot;" title))

/-! ## Links -/

/-- The title part of a link: nothing where no title is left. -/
def titlePart (title : Option Text) : Text :=
  match (title.map titleText).filter (!·.isEmpty) with
  | some title => " \x22" ++ title ++ "\x22"
  | none => []

/-- A link that holds its target. -/
def inlineLink (text url : Text) (title : Option Text) : Text :=
  "[" ++ text ++ "](" ++ url ++ titlePart title ++ ")"

/-- A link to a marker. -/
def referenceLink (text marker : Text) : Text := "[" ++ text ++ "][" ++ marker ++ "]"

/-- The definition of a marker. -/
def definitionLine (marker url : Text) (title : Option Text) : Text :=
  "[" ++ marker ++ "]: " ++ url ++ titlePart title

end InlineSearch.Reference

/-
InlineSearch.Search.Shortcut — what the user's own triggers expand to.

The value of such a trigger is a site or a template. A site turns the
search into a web search restricted to it. A template is a URL, or begins
like one, into which the terms are put, percent encoded: word by word
where it has numbered places (`$term1`), and otherwise as a whole
(`$term`). A letter behind a place asks for small letters (`d`) or for a
slug (`s`).
-/
import InlineSearch.Directive.Flag
import InlineSearch.Search.Trigger
import InlineSearch.Text.FoldCase
import InlineSearch.Text.LetterCase
import InlineSearch.Text.Percent

namespace InlineSearch.Search

/-! ## Slugs -/

/-- Whether a character may stand in a slug beside dashes. -/
def isSlugChar (c : Char) : Bool := c.isLower || c.isDigit || c == '_'

/-- A run of characters that may not stand in a slug. -/
def slugGap : Text.Pattern Unit := fun _ t =>
  some ((t.takeWhile (!isSlugChar ·)).length, ())

/-- The text in small letters, with a dash for every run of characters
that are no ASCII letters, digits or low lines. -/
def slug (t : Text) : Text := Text.substitute slugGap (fun _ => "-") (Text.lowercase t)

/-! ## Places in templates -/

/-- What is done with terms before they are put into a template. -/
inductive Transform where
  | keep
  | lowercase
  | slug
deriving DecidableEq, Repr

/-- Transforms a text. -/
def Transform.apply : Transform → Text → Text
  | keep, t => t
  | lowercase, t => Text.lowercase t
  | slug, t => Search.slug t

/-- A place in a template: the digits of its number, if it has one, and
the transform that its letter asks for. -/
structure Place where
  digits : Text
  transform : Transform
deriving DecidableEq, Repr

/-- The letter of a numbered place. -/
def numberedTransform (t : Text) : Nat × Transform :=
  match t.head? with
  | some 'd' => (1, .lowercase)
  | some 's' => (1, .slug)
  | _ => (0, .keep)

/-- A numbered place. -/
def numberedPlace : Text.Pattern Place := fun _ t => do
  let rest ← Text.dropPrefix? "$term" t
  let digits := rest.takeWhile Text.isDecimal
  guard (!digits.isEmpty)
  let (letters, transform) := numberedTransform (rest.drop digits.length)
  return (5 + digits.length + letters, ⟨digits, transform⟩)

/-- The letter of a place for the whole terms, where case is ignored. The
long s is taken as a letter, and changes nothing. -/
def wholeTransform (t : Text) : Nat × Transform :=
  match t.head? with
  | some 'd' | some 'D' => (1, .lowercase)
  | some 's' | some 'S' => (1, .slug)
  | some '\u017F' => (1, .keep)
  | _ => (0, .keep)

/-- A place for the whole terms, in any case. -/
def wholePlace : Text.Pattern Place := fun _ t => do
  let rest ← Text.dropFolded? "$term" t
  let (letters, transform) := wholeTransform rest
  return (5 + letters, ⟨[], transform⟩)

/-! ## Templates -/

/-- Whether a value is a template. -/
def isUrlTemplate (value : Text) : Bool :=
  Text.startsWith "/" value || Text.sameIgnoringCase (value.take 4) "http"

/-- The words of the terms, one for each of some places; the last place
takes all that remain. -/
def fillPlaces (terms : Text) : Nat → List Text
  | 0 => []
  | count + 1 =>
    let words := Text.words terms
    if words.length ≤ count + 1 then words
    else words.take count ++ [Text.unwords (words.drop count)]

/-- A text as it is put into a template. -/
def Transform.encode (transform : Transform) (t : Text) : Text :=
  Text.percentEncode (transform.apply t)

/-- The word for a numbered place. Places are counted from one; a number
that is too large counts as one, and a place without a word is empty. -/
def wordFor (words : List Text) (place : Place) : Text :=
  match (Text.toWord? place.digits).getD 1 with
  | 0 => []
  | n + 1 => (words[n]?).getD []

/-- A template with terms put into it. -/
def fillTemplate (template terms : Text) : Text :=
  let numbers := (Text.hits numberedPlace template).filterMap fun p => Text.toWord? p.digits
  if numbers.isEmpty then
    Text.substitute wholePlace (fun p => p.transform.encode terms) template
  else
    let words := fillPlaces terms (numbers.foldl max 0)
    Text.substitute numberedPlace (fun p => p.transform.encode (wordFor words p)) template

/-! ## Expansion -/

/-- The trigger and the terms that one of the user's own triggers with a
value stands for. Inline flags in the value are left out. -/
def expandShortcut (value terms : Text) : Text × Text :=
  let value := Text.trim (Directive.Flag.strip value)
  if isUrlTemplate value then (urlTrigger, fillTemplate value terms)
  else (webTrigger, "site:" ++ value ++ " " ++ terms)

end InlineSearch.Search

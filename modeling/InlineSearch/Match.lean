/-
InlineSearch.Match — how well a text matches search terms.

Terms are the words of the searched text, reduced to ASCII letters and
digits; words of which nothing remains are not looked for. Case is
ignored. `score` says which fraction of the terms occurs, as an exact
rational number from 0 to 10; `exactly`, `any`, `all` and `none` compare
with the punctuation of the text removed.
-/
import InlineSearch.Text.Blank
import InlineSearch.Text.FoldCase
import InlineSearch.Text.Word

namespace InlineSearch.Match

/-! ## Terms -/

/-- The ASCII letters, digits and spaces of a text. -/
def simplified (t : Text) : Text := t.filter fun c => c.isAlphanum || c == ' '

/-- The terms to look for. -/
def terms (sought : Text) : List Text :=
  ((Text.words sought).map (·.filter Char.isAlphanum)).filter (!·.isEmpty)

/-! ## Occurrence -/

/-- Whether `starts` holds of the text from some position on, where the
text stands behind the character `before`. With `wordStart` a position
counts only if no word character precedes it. -/
def somewhere (wordStart : Bool) (starts : Text → Bool) (before : Option Char) : Text → Bool
  | [] => (!wordStart || !Text.isWord? before) && starts []
  | c :: t =>
    (!wordStart || !Text.isWord? before) && starts (c :: t)
      || somewhere wordStart starts (some c) t

/-- Whether a term occurs in a text, at the start of a word or anywhere. -/
def occurs (wordStart : Bool) (t term : Text) : Bool :=
  somewhere wordStart (fun rest => (Text.dropFolded? term rest).isSome) none t

/-- Whether words start a text, with one or more spaces between them. -/
def startsPhrase : List Text → Text → Bool
  | [], _ => true
  | [word], t => (Text.dropFolded? word t).isSome
  | word :: words, t =>
    match Text.dropFolded? word t with
    | some rest => rest.head? == some ' ' && startsPhrase words (rest.dropWhile (· == ' '))
    | none => false

/-- Whether the sought words occur in the text as one phrase that starts
at the start of a word. -/
def exactly (t sought : Text) : Bool :=
  let phrase := Text.words (simplified sought)
  !phrase.isEmpty && somewhere true (startsPhrase phrase) none (simplified t)

/-- Whether some term starts a word of the text. -/
def any (t sought : Text) : Bool := (terms sought).any (occurs true (simplified t))

/-- Whether every term starts a word of the text. -/
def all (t sought : Text) : Bool := (terms sought).all (occurs true (simplified t))

/-- Whether no term starts a word of the text. -/
def none (t sought : Text) : Bool := !any t sought

/-! ## Scores -/

/-- The score of a text in which every term occurs. -/
def fullScore : Rat := 10

/-- The fraction of the terms that occur in a text, or zero where there
are no terms. -/
def fraction (wordStart : Bool) (t sought : Text) : Rat :=
  let sought := terms sought
  (sought.countP (occurs wordStart t) : Rat) / (sought.length : Rat)

/-- The score of a text, with terms at the start of words or anywhere. -/
def scoreAt (wordStart : Bool) (t sought : Text) : Rat := fraction wordStart t sought * fullScore

/-- The score of a text. -/
def score (t sought : Text) : Rat := scoreAt true t sought

/-- A score as a double: the fraction is rounded, and then the product. -/
def asDouble (score : Rat) : Float :=
  let fraction := score / fullScore
  Float.ofInt fraction.num / Float.ofNat fraction.den * Float.ofInt fullScore.num

end InlineSearch.Match

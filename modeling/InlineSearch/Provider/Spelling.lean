/-
InlineSearch.Provider.Spelling — correcting the spelling of phrases.

The words of a phrase, which are its runs of ASCII letters, are given to a
spell checker one a line. For each word it prints one line, on which its
suggestions stand if the word is wrong. Corrections go back to the places
of their words and everything else stays as it is.
-/
import InlineSearch.Text.LetterCase
import InlineSearch.World.Basic

namespace InlineSearch.Provider.Spelling

open Search (Hit)

/-! ## Words and their corrections -/

/-- A word at the start of a text. -/
def word : Text.Pattern Text := fun _ t =>
  let found := t.takeWhile Char.isAlpha
  some (found.length, found)

/-- The words of a phrase. -/
def words (phrase : Text) : List Text := Text.hits word phrase

/-- The pieces of a phrase as a text, with corrections in place of its
words, first to first. A word without a correction stays. -/
def correctPieces : List (Text.Piece Text) → List (Option Text) → Text
  | [], _ => []
  | .char c :: pieces, fixes => c :: correctPieces pieces fixes
  | .hit word :: pieces, [] => word ++ correctPieces pieces []
  | .hit word :: pieces, fix :: fixes => fix.getD word ++ correctPieces pieces fixes

/-- A phrase with corrections in place of its words. -/
def correctWords (phrase : Text) (fixes : List (Option Text)) : Text :=
  correctPieces (Text.pieces word phrase) fixes

/-! ## The lines of the spell checker -/

/-- The first suggestion on a line of the spell checker. With `lowercase`,
suggestions with capitals are passed over. -/
def suggestion? (lowercase : Bool) (line : Text) : Option Text := do
  guard (Text.startsWith "&" line)
  let (_, listed) ← Text.cut ": " line
  ((Text.parts ", " listed).map Text.trim).find? fun suggestion =>
    !suggestion.isEmpty && !(lowercase && suggestion.any Text.isUppercase)

/-- The lines that answer words, one for each. -/
def answerLines (output : Text) : List Text :=
  (Text.endedLines output).filter fun line =>
    !Text.startsWith "@(#)" line && !Text.isBlankText line

/-- The corrections that the output of the spell checker makes to the words
of a phrase. A phrase that begins with a small letter gets small ones. -/
def corrections (phrase output : Text) : List (Option Text) :=
  (answerLines output).map (suggestion? (phrase.head?.any Char.isLower))

/-! ## Checking -/

/-- The arguments of the spell checker. -/
def arguments : List Text := ["--sug-mode=bad-spellers", "-C", "pipe"]

/-- The input of the spell checker. A sign before each word keeps it from
being a command. -/
def input (words : List Text) : Text := words.flatMap fun w => '^' :: w ++ ['\n']

/-- A phrase as a spell checker corrects it. A phrase without words is not
checked. -/
def correct (checker : Program) (phrase : Text) : Lookup Text := do
  let words := words phrase
  if words.isEmpty then return phrase
  match checker arguments (input words) with
  | some output => return correctWords phrase (corrections phrase output)
  | none => throw .unreadable

/-- Answers with the corrected terms. -/
def provider : Search.Provider World := fun request => show SearchStep _ from do
  match (← get).spellChecker with
  | some checker => return some (.correction (← correct checker request.terms))
  | none => throw (.unavailable "aspell")

end InlineSearch.Provider.Spelling

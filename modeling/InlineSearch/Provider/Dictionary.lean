/-
InlineSearch.Provider.Dictionary — definitions of words.

The search engine may know a page with a definition. Otherwise the first
definition on the page of a dictionary becomes the title of the link to
that page. Where a spell checker is installed the word is corrected first,
and a correction is remarked on.
-/
import InlineSearch.Provider.InstantAnswer
import InlineSearch.Provider.Spelling
import InlineSearch.Text.FoldCase

namespace InlineSearch.Provider.Dictionary

open Search (Hit Note)

/-! ## The page of a word -/

/-- The first item of a list behind the place where definitions begin. -/
def firstItemAt? (t : Text) : Option Text := do
  let rest ← Text.dropFolded? "id=\x22define\x22" t
  let item ← Text.findSuffix? (Text.dropFolded? "<li>") rest
  return (← Text.splitFirst? (Text.dropFolded? "</li>") item).1

/-- The part of speech at the start of a text, and the line behind it. -/
def meaningAt? (t : Text) : Option (Text × Text) := do
  let rest ← Text.dropPrefix? "<abbr title=\x22partOfSpeech\x22>" t
  let (partOfSpeech, rest) ← Text.cutInLine "</abbr>" rest
  return (partOfSpeech, (Text.trimStart rest).takeWhile (· != '\n'))

/-- A tag. -/
def tag : Text.Pattern Unit := fun _ t => do
  let inside ← Text.dropPrefix? "<" t
  let (name, _) ← Text.cut ">" inside
  return (name.length + 2, ())

/-- The first definition on the page of a word, behind its part of speech
in parentheses. -/
def definition? (page : Text) : Option Text := do
  let item ← Text.findSuffix? firstItemAt? page
  let (partOfSpeech, meaning) ← Text.findSuffix? meaningAt? item
  let written := "(" ++ partOfSpeech ++ ") " ++ meaning
  return Text.trim (Text.collapseBlanks (Text.remove tag written))

/-! ## Searches -/

/-- The page of a word. -/
def pageUrl (word : Text) : Text :=
  "https://www.wordnik.com/words/" ++ Text.percentEncode word

/-- A page that defines a word. -/
def define (word : Text) : Lookup (Option Hit) := do
  let answer ← InstantAnswer.ofQuery ("!def " ++ word)
  if !answer.redirect.isEmpty then return some (.titled answer.redirect word)
  let page ← World.page (pageUrl word)
  return (definition? page).map (Hit.titled (pageUrl word))

/-- A word as the spell checker corrects it, if one is installed and the
correction changes more than the case. -/
def corrected? (word : Text) : StateM World (Option Text) := do
  match (← get).spellChecker with
  | none => return none
  | some checker =>
    match ← (Spelling.correct checker word).run with
    | .ok fix => return if Text.lowercase fix == Text.lowercase word then none else some fix
    | .error _ => return none

/-- What is remarked on a correction. -/
def alteredNote (word fix : Text) : Note :=
  ⟨.spelling, "Spelling altered for '" ++ word ++ "' to '" ++ fix ++ "'"⟩

/-- Answers with pages that define the terms. -/
def provider : Search.Provider World := fun request => show SearchStep _ from do
  match ← corrected? request.terms with
  | none => define request.terms
  | some fix =>
    return (← define fix).map fun hit => { hit with
      linkText := some fix, notes := hit.notes ++ [alteredNote request.terms fix] }

end InlineSearch.Provider.Dictionary

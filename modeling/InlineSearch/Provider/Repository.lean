/-
InlineSearch.Provider.Repository — repositories and their owners.

One or two words are taken as an owner, or an owner and a repository, if
there is a page for them. Everything else is searched for.
-/
import InlineSearch.Provider.Web

namespace InlineSearch.Provider.Repository

/-- The parts of the terms between slashes and spaces. -/
def parts (terms : Text) : List Text :=
  ((Text.trim terms).splitOnP fun c => c == ' ' || c == '/').filter (!·.isEmpty)

/-- The page of an owner, or of an owner's repository. -/
def pageUrl? (terms : Text) : Option Text :=
  match parts terms with
  | [owner] => some ("https://github.com/" ++ owner)
  | [owner, name] => some ("https://github.com/" ++ owner ++ "/" ++ name)
  | _ => none

/-- Whether there is a page at a URL. -/
def pageExists (url : Text) : StateM World Bool := do
  match ← (World.status url).run with
  | .ok status => return !Http.isFailure status
  | .error _ => return false

/-- The page that some terms name, if it is there. -/
def namedPage (terms : Text) : StateM World (Option Text) := do
  match pageUrl? terms with
  | some url => return if ← pageExists url then some url else none
  | none => return none

/-- Answers with pages of repositories and owners. -/
def provider : Search.Provider World := fun request => show SearchStep _ from do
  match ← namedPage request.terms with
  | some url => return some (.untitled url)
  | none => return (← Web.firstHitOn "github.com" request.terms).map Search.Hit.untitled

end InlineSearch.Provider.Repository

/-
InlineSearch.Provider.Gist — gists, and scripts that show them in a page.

A gist has an id of 32 characters and an owner. Terms may give the id, the
owner and the id, or the address, each with the anchor of a file behind
it; other terms are searched for. The owner of a bare id is found by
following the redirect of its address.
-/
import InlineSearch.Provider.Repository
import InlineSearch.Text.Word

namespace InlineSearch.Provider

open Search (Hit)

/-- The gist that some terms ask for. -/
inductive Gist where
  /-- A gist whose owner is not known. -/
  | ofId (id : Text) (file : Option Text)
  | ofUrl (url : Text) (file : Option Text)
  /-- The gist that a search finds. -/
  | search (terms : Text)
deriving DecidableEq, Repr

namespace Gist

/-! ## Ids and anchors -/

/-- Where gists are. -/
def site : Text := "https://gist.github.com/"

/-- Whether a character may stand in an id. -/
def isIdChar (c : Char) : Bool := c.isLower || c.isDigit

/-- The anchor of a file at the end of a text: nothing, or text behind `#`
or a slash. An empty anchor counts as none. -/
def anchor? : Text → Option (Option Text)
  | [] => some none
  | c :: file => do
    guard ((c == '#' || c == '/') && file.all (· != '\n'))
    return if file.isEmpty then none else some file

/-- An id, and the anchor behind it. -/
def idAndAnchor? (t : Text) : Option (Text × Option Text) := do
  let (id, rest) := t.splitAt 32
  guard (id.length == 32 && id.all isIdChar)
  return (id, ← anchor? rest)

/-! ## Reading terms -/

/-- An address at the start of a text, and the anchor behind it. -/
def urlAt? (t : Text) : Option (Text × Option Text) := do
  let rest ← Text.dropPrefix? site t
  let owner := rest.takeWhile Text.isWord
  guard (!owner.isEmpty)
  let (id, file) ← idAndAnchor? (← Text.dropPrefix? "/" (rest.drop owner.length))
  return (site ++ owner ++ "/" ++ id, file)

/-- The last success of `f` on a suffix that nothing but characters of a
class stand before, with those characters. -/
def splitLastWithin? {α : Type} (p : Char → Bool) (f : Text → Option α) :
    Text → Option (Text × α)
  | [] => (f []).map fun a => ([], a)
  | c :: t =>
    match if p c then splitLastWithin? p f t else none with
    | some (before, a) => some (c :: before, a)
    | none => (f (c :: t)).map fun a => ([], a)

/-- An owner and an id, and the anchor behind them. -/
def ownerAndId? (t : Text) : Option (Text × Option Text) := do
  let afterSlash? (t : Text) := (Text.dropPrefix? "/" t).bind idAndAnchor?
  let (owner, id, file) ← splitLastWithin? (!Text.isBlank ·) afterSlash? t
  guard (!owner.isEmpty)
  return (site ++ owner ++ "/" ++ id, file)

/-- The gist that some terms ask for. -/
def ofTerms (terms : Text) : Gist :=
  let terms := Text.trim terms
  match idAndAnchor? terms with
  | some (id, file) => ofId id file
  | none =>
    match (Text.findSuffix? urlAt? terms).or (ownerAndId? terms) with
    | some (url, file) => ofUrl url file
    | none => search terms

/-! ## Addresses -/

/-- The parts of the address of a gist. -/
structure Address where
  owner : Text
  id : Text
  file : Option Text
deriving DecidableEq, Repr

/-- The parts of a URL, if it is the address of a gist. -/
def Address.ofUrl? (url : Text) : Option Address := do
  let rest ← Text.dropPrefix? site url
  let owner := rest.takeWhile Text.isWord
  guard (!owner.isEmpty)
  let rest ← Text.dropPrefix? "/" (rest.drop owner.length)
  let id := rest.takeWhile isIdChar
  guard (!id.isEmpty)
  return { owner, id, file := ← anchor? (rest.drop id.length) }

/-- The name of the file that an anchor stands for. -/
def fileName (anchor : Text) : Text :=
  let name := (Text.dropPrefix? "file-" anchor).getD anchor
  match Text.splitLast? (Text.dropPrefix? "-") name with
  | some (stem, ending) => stem ++ "." ++ ending
  | none => name

/-- The script that shows a gist. -/
def Address.script (a : Address) : Text :=
  let file : Text :=
    match a.file with
    | some anchor => "?file=" ++ fileName anchor
    | none => []
  "<script src=\x22" ++ site ++ a.owner ++ "/" ++ a.id ++ ".js" ++ file ++ "\x22></script>"

/-- The script that shows the gist at an address. -/
def script? (url : Text) : Option Text := (Address.ofUrl? url).map Address.script

/-! ## Searches -/

/-- The address of a gist with the anchor of a file. -/
def withAnchor (file : Option Text) (url : Text) : Text :=
  match file with
  | some file => url ++ "#" ++ file
  | none => url

/-- The address of a gist. -/
def url : Gist → Lookup (Option Text)
  | ofId id file => do return (← World.redirect (site ++ id)).map (withAnchor file)
  | ofUrl url file => return some (withAnchor file url)
  | search terms => Web.firstHitOn "gist.github.com" terms

/-- The hit for an address, as a link or as a script. -/
def hit? (embed : Bool) (url : Text) : Option Hit :=
  (Address.ofUrl? url).map fun a => if embed then .markup "embed" a.script else .untitled url

/-- Answers with gists, and with repositories where none is asked for. -/
def provider : Search.Provider World := fun request =>
  match request.kind with
  | .gist embed => show SearchStep _ from do
    return (← (ofTerms request.terms).url).bind (hit? embed)
  | _ => Repository.provider request

end Gist

end InlineSearch.Provider

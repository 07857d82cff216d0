/-
InlineSearch.Provider.Bookmarks — the bookmarks that browsers keep.

Some browsers keep their bookmarks in a file as a tree of folders. The
sources of a search are looked through in their order, and the first with
a match answers; a source without a file is passed over. Of several
matches of one source the best counts, and of equally good ones the one
that was added last.
-/
import InlineSearch.Match
import InlineSearch.World.Basic

namespace InlineSearch.Provider.Bookmarks

open Config (Browser Source Store)
open Search (Hit Kind)

/-! ## The file of a browser -/

/-- A bookmarked page. -/
structure Bookmark where
  url : Text
  title : Text
  /-- The time at which it was added. -/
  added : Nat
deriving DecidableEq, Repr

/-- A time as the file writes it. What is no time of 64 bits counts as
zero. -/
def readTime (t : Text) : Nat := (Text.toWord? ((Text.dropPrefix? "+" t).getD t)).getD 0

/-- The bookmark of a node, if the node is one. -/
def ownBookmark (type title url added : Text) : List Bookmark :=
  if type = ("url" : Text) then [⟨url, title, readTime added⟩] else []

/-- Reads the bookmarks of a node and of what is below it, nested at most
`depth` levels. -/
def nodeDecoder : Nat → Json.Decoder (List Bookmark)
  | 0 => fun _ => none
  | depth + 1 => fun v => do
    let r ← Json.lenientRecord ["type", "name", "url", "date_added", "children"] v
    let type ← r.withDefault "type" [] Json.text
    let title ← r.withDefault "name" [] Json.text
    let url ← r.withDefault "url" [] Json.text
    let added ← r.withDefault "date_added" [] Json.text
    let below ← r.withDefault "children" [] (Json.list (nodeDecoder depth))
    return ownBookmark type title url added ++ below.flatten

/-- Entries in the order of their names, of several with one name the
last. -/
def byName {α : Type} (entries : List (Text × α)) : List (Text × α) :=
  let last := entries.foldr (fun (name, a) kept =>
    if kept.any (·.1 == name) then kept else (name, a) :: kept) []
  last.mergeSort fun a b => Text.le a.1 b.1

/-- Reads the bookmarks of a file, root by root in the order of their
names. A root that is no node has none. -/
def fileDecoder : Json.Decoder (List Bookmark) := fun v => do
  let r ← Json.record ["roots"] v
  let depth := Json.maxDepth - 2
  let roots ← r.withDefault "roots" [] (Json.entries (Json.plain depth))
  return (byName roots).flatMap fun (_, root) => (nodeDecoder (depth + 1) root).getD []

/-! ## Matches -/

/-- The text that terms are looked for in. -/
def Bookmark.searched (b : Bookmark) : Text := b.title ++ " " ++ b.url

/-- Whether a bookmark is as good as another or better: by its score, and
then by the time at which it was added. -/
def Bookmark.atLeast (terms : Text) (a b : Bookmark) : Bool :=
  let score (b : Bookmark) := Match.score b.searched terms
  score b < score a || (score a = score b && b.added ≤ a.added)

/-- The best of the bookmarks in which all of the terms occur, of equally
good ones the last. -/
def best? (bookmarks : List Bookmark) (terms : Text) : Option Bookmark :=
  (bookmarks.filter fun b => Match.all b.searched terms).foldl (fun best? b =>
    match best? with
    | some best => some (if b.atLeast terms best then b else best)
    | none => some b) none

/-! ## Where the files are -/

/-- The places in the home directory where a browser may keep its
bookmarks. -/
def candidates : Browser → List Path
  | .chrome => [
      ["Library", "Application Support", "Google", "Chrome", "Default", "Bookmarks"],
      [".config", "google-chrome", "Default", "Bookmarks"],
      [".config", "chromium", "Default", "Bookmarks"]]
  | .edge => [
      ["Library", "Application Support", "Microsoft Edge", "Default", "Bookmarks"],
      [".config", "microsoft-edge", "Default", "Bookmarks"]]
  | .brave => [
      ["Library", "Application Support", "BraveSoftware", "Brave-Browser", "Default", "Bookmarks"],
      [".config", "BraveSoftware", "Brave-Browser", "Default", "Bookmarks"]]
  | .arc => [["Library", "Application Support", "Arc", "User Data", "Default", "Bookmarks"]]
  | .safari | .firefox => []

/-- Files to take instead of those that browsers are known to keep. -/
abbrev Overrides := List (Browser × Path)

/-- The file of a source, if it has one that can be looked through. -/
def file? (overrides : Overrides) (w : World) (source : Source) : Option Path :=
  match source.store with
  | .history => none
  | .bookmarks =>
    match overrides.lookup source.browser with
    | some place => some place
    | none => ((candidates source.browser).map (w.home ++ ·)).find? w.files.isFile

/-! ## Searches -/

/-- The best match in a file. -/
def searchIn (terms : Text) (place : Path) : Lookup (Option Bookmark) := do
  match Json.decode? fileDecoder (← World.read place) with
  | some bookmarks => return best? bookmarks terms
  | none => throw .malformed

/-- The first match in some files, in their order. -/
def searchFiles (terms : Text) : List Path → Lookup (Option Bookmark)
  | [] => return none
  | place :: places => do
    match ← searchIn terms place with
    | some found => return some found
    | none => searchFiles terms places

/-- The sources that a search looks through. -/
def sourcesOf (kind : Kind) (config : Config) : List Source :=
  match kind with
  | .history (source :: sources) => source :: sources
  | _ => config.historyTypes

/-- Answers with bookmarks. Where none of the sources has a file, all of
them are unavailable. -/
def provider (overrides : Overrides) : Search.Provider World := fun request =>
  show SearchStep _ from do
    let w ← get
    let sources := sourcesOf request.kind request.config
    let files := sources.filterMap (file? overrides w)
    if files.isEmpty && !sources.isEmpty then
      throw (.unavailable (Text.join ", " (sources.map Source.label)))
    match ← searchFiles request.terms files with
    | some found => return some (.titled found.url found.title)
    | none => return none

end InlineSearch.Provider.Bookmarks

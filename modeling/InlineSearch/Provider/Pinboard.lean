/-
InlineSearch.Provider.Pinboard — the user's bookmarks at the bookmark
service.

All bookmarks are fetched once and kept in a file together with the time
of their last change. A search asks for that time, and fetches them again
only if it lies behind the time that was kept.
-/
import InlineSearch.Json.Printer
import InlineSearch.Match
import InlineSearch.Text.Percent
import InlineSearch.World.Basic

namespace InlineSearch.Provider.Pinboard

open Search (Hit)

/-! ## Bookmarks -/

/-- A bookmark. -/
structure Bookmark where
  url : Text
  title : Text := []
  description : Text := []
  tags : Text := []
  /-- When it was changed. Times are compared as texts. -/
  time : Text := []
deriving DecidableEq, Repr

/-- Reads a bookmark. The service calls the title a description. -/
def Bookmark.decoder : Json.Decoder Bookmark := fun v => do
  let r ← Json.record ["href", "description", "extended", "tags", "time"] v
  return {
    url := ← r.required "href" Json.text
    title := ← r.withDefault "description" [] Json.text
    description := ← r.withDefault "extended" [] Json.text
    tags := ← r.withDefault "tags" [] Json.text
    time := ← r.withDefault "time" [] Json.text }

/-- A bookmark as a document. -/
def Bookmark.toJson (b : Bookmark) : Json := .ofMembers [
  ("href", .ofText b.url), ("description", .ofText b.title), ("extended", .ofText b.description),
  ("tags", .ofText b.tags), ("time", .ofText b.time)]

/-- The title and the tags. -/
def Bookmark.titleAndTags (b : Bookmark) : Text := b.title ++ " " ++ b.tags

/-- The title, the description and the tags. -/
def Bookmark.searched (b : Bookmark) : Text := b.title ++ " " ++ b.description ++ " " ++ b.tags

/-! ## Matches -/

/-- The phrase that terms with a leading quote ask for. -/
def phrase? (terms : Text) : Option Text := do
  let rest ← Text.dropPrefix? "'" (Text.trimStart terms)
  let phrase := Text.trimEnd (rest.dropWhile (· == '\x27'))
  return Text.trim (Text.dropEndWhile (· == '\x27') phrase)

/-- The score of a bookmark with the terms as a phrase in its title and
tags. -/
def titleScore : Rat := 14

/-- The score of a bookmark with the terms as a phrase anywhere. -/
def phraseScore : Rat := 13

/-- The score of a bookmark. -/
def Bookmark.score (terms : Text) (b : Bookmark) : Rat :=
  if Match.exactly b.titleAndTags terms then titleScore
  else if Match.exactly b.searched terms then phraseScore
  else if Match.any b.searched terms then Match.score b.searched terms
  else 0

/-- Whether a bookmark is better than another: by its score, and then by
its time. -/
def Bookmark.better (terms : Text) (a b : Bookmark) : Bool :=
  b.score terms < a.score terms || (a.score terms = b.score terms && decide (b.time < a.time))

/-- The best of the bookmarks that score, of equally good ones the first. -/
def bestScored? (bookmarks : List Bookmark) (terms : Text) : Option Bookmark :=
  (bookmarks.filter fun b => 0 < b.score terms).foldl (fun best? b =>
    match best? with
    | some best => some (if b.better terms best then b else best)
    | none => some b) none

/-- The best bookmark for some terms. The first with the phrase that is
asked for counts, or with the terms as a phrase in its title and tags. -/
def best? (bookmarks : List Bookmark) (terms : Text) : Option Bookmark :=
  match phrase? terms with
  | some phrase => bookmarks.find? fun b => Match.exactly b.searched phrase
  | none =>
    match bookmarks.find? fun b => titleScore ≤ b.score terms with
    | some b => some b
    | none => bestScored? bookmarks terms

/-! ## What is kept -/

/-- The bookmarks that were fetched last. -/
structure Cache where
  /-- The time of the last change. -/
  updated : Text
  bookmarks : List Bookmark
deriving DecidableEq, Repr

/-- Reads what was kept. -/
def Cache.decoder : Json.Decoder Cache := fun v => do
  let r ← Json.record ["update_time", "bookmarks"] v
  let updated ← r.required "update_time" Json.text
  return { updated, bookmarks := ← r.required "bookmarks" (Json.list Bookmark.decoder) }

/-- What was kept in a file. -/
def Cache.read? (written : Text) : Option Cache := Json.decode? decoder written

/-- What is written to a file. -/
def Cache.written (c : Cache) : Text :=
  (Json.ofMembers [
    ("update_time", .ofText c.updated),
    ("bookmarks", .arr (c.bookmarks.map Bookmark.toJson))]).print

/-- The name of the file in the home directory. -/
def cacheName : Text := ".searchlink_cache"

/-- What was kept; nothing if it cannot be read. -/
def keptCache : StateM World (Option Cache) := do
  match ← (World.read (← World.inHome [cacheName])).run with
  | .ok written => return Cache.read? written
  | .error _ => return none

/-! ## Searches -/

/-- The URL of something that the service tells about an account. -/
def queryUrl (what token : Text) : Text :=
  "https://api.pinboard.in/v1/posts/" ++ what ++ "?auth_token=" ++ Text.percentEncode token
    ++ "&format=json"

/-- Reads the time of the last change. -/
def updateDecoder : Json.Decoder Text := fun v => do
  let r ← Json.record ["update_time"] v
  r.required "update_time" Json.text

/-- The bookmarks of an account: those that were kept, if they are no older
than the last change. That what is fetched cannot be kept does not
matter. -/
def bookmarks (token : Text) : Lookup (List Bookmark) := do
  let kept ← keptCache
  let updated ← World.data updateDecoder (queryUrl "update" token)
  match kept.filter fun c => Text.le updated c.updated with
  | some c => return c.bookmarks
  | none =>
    let fetched ← World.data (Json.list Bookmark.decoder) (queryUrl "all" token)
    World.tryWrite (← World.inHome [cacheName]) (Cache.written ⟨updated, fetched⟩)
    return fetched

/-- Answers with bookmarks of the account in the configuration. -/
def provider : Search.Provider World := fun request => show SearchStep _ from do
  let token := request.config.pinboardApiKey
  if token.isEmpty then throw (.unavailable "Pinboard API token")
  return (best? (← bookmarks token) request.terms).map fun b => .titled b.url b.title

end InlineSearch.Provider.Pinboard

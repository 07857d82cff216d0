/-
InlineSearch.Provider.Film — movies, shows and people of the film
database.

The database needs a key. Without one, and where it finds nothing, the
pages of another database are searched.
-/
import InlineSearch.Provider.Web

namespace InlineSearch.Provider.Film

open Search (FilmTarget Hit)

/-- What the database lists. People and shows have a name, movies a
title. -/
structure Item where
  id : Nat
  mediaType : Option Text
  name : Option Text
  title : Option Text
deriving DecidableEq, Repr

/-- Reads an item. -/
def Item.decoder : Json.Decoder Item := fun v => do
  let r ← Json.record ["id", "media_type", "name", "title"] v
  return {
    id := ← r.required "id" Json.word
    mediaType := ← r.optional "media_type" Json.text
    name := ← r.optional "name" Json.text
    title := ← r.optional "title" Json.text }

/-- Reads the items that a search found. -/
def itemsDecoder : Json.Decoder (List Item) := fun v => do
  let r ← Json.record ["results"] v
  r.withDefault "results" [] (Json.list Item.decoder)

/-- The kind of page that an item has. A search for everything says it of
each item. -/
def mediaType? (target : FilmTarget) (item : Item) : Option Text :=
  match target with
  | .multi => item.mediaType
  | target => some target.endpoint

/-- The page and the title of the first of some items, which a search for
the terms found. -/
def link? (target : FilmTarget) (items : List Item) (terms : Text) : Option (Text × Text) := do
  let item ← items.head?
  let mediaType ← mediaType? target item
  let url := "https://www.themoviedb.org/" ++ mediaType ++ "/" ++ Text.ofNat item.id
  return (url, (item.name.or item.title).getD terms)

/-- The URL of a search. -/
def queryUrl (target : FilmTarget) (terms key : Text) : Text :=
  "https://api.themoviedb.org/3/search/" ++ target.endpoint ++ "?query="
    ++ Text.percentEncode terms ++ "&api_key=" ++ Text.percentEncode key

/-- The page and the title that the database has for some terms. -/
def lookup (target : FilmTarget) (terms key : Text) : Lookup (Option (Text × Text)) := do
  if key.isEmpty then return none
  return link? target (← World.data itemsDecoder (queryUrl target terms key)) terms

/-- Answers with pages of the film database. A directive without link text
gets the title as such. -/
def provider : Search.Provider World := fun request => show SearchStep _ from do
  match request.kind with
  | .film target =>
    match ← (lookup target request.terms request.config.tmdbApiKey : Lookup _) with
    | some (url, title) =>
      let linkText := if request.linkText.isEmpty then some title else none
      return some { url, title := some title, linkText }
    | none => return (← Web.firstHitOn "imdb.com" request.terms).map Hit.untitled
  | _ => return none

end InlineSearch.Provider.Film

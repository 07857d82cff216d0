/-
InlineSearch.Provider.Listening — tracks, artists and albums of the
listening database, which needs a key.
-/
import InlineSearch.Text.Percent
import InlineSearch.World.Basic

namespace InlineSearch.Provider.Listening

open Search (Hit ListeningTarget)

/-- A track, an artist or an album. Artists have no artist. -/
structure Item where
  name : Text
  artist : Option Text
  url : Text
deriving DecidableEq, Repr

/-- The items of each sort that a search found. -/
structure Results where
  tracks : Option (List Item) := none
  artists : Option (List Item) := none
  albums : Option (List Item) := none
deriving DecidableEq, Repr

/-- Reads an item. -/
def Item.decoder : Json.Decoder Item := fun v => do
  let r ← Json.record ["name", "artist", "url"] v
  let name ← r.required "name" Json.text
  let artist ← r.optional "artist" Json.text
  let url ← r.required "url" Json.text
  return { name, artist, url }

/-- Reads the items of one sort. -/
def itemsDecoder (name : Text) : Json.Decoder (List Item) := fun v => do
  let r ← Json.record [name] v
  r.withDefault name [] (Json.list Item.decoder)

/-- Reads the items of each sort. -/
def sortsDecoder : Json.Decoder Results := fun v => do
  let r ← Json.record ["trackmatches", "artistmatches", "albummatches"] v
  return {
    tracks := ← r.optional "trackmatches" (itemsDecoder "track")
    artists := ← r.optional "artistmatches" (itemsDecoder "artist")
    albums := ← r.optional "albummatches" (itemsDecoder "album") }

/-- Reads what a search found. -/
def Results.decoder : Json.Decoder Results := fun v => do
  let r ← Json.record ["results"] v
  return (← r.optional "results" sortsDecoder).getD {}

/-- The items that a search looked for. -/
def Results.sought (r : Results) (target : ListeningTarget) : List Item :=
  (match target with
    | .track => r.tracks
    | .artist => r.artists
    | .album => r.albums).getD []

/-- The title of an item. -/
def Item.title (item : Item) : Text :=
  match item.artist with
  | some artist => item.name ++ " by " ++ artist
  | none => item.name

/-- The page and the title of the first item that was looked for. -/
def link? (target : ListeningTarget) (r : Results) : Option (Text × Text) := do
  let item ← (r.sought target).head?
  guard (!item.url.isEmpty)
  return (item.url, item.title)

/-- The URL of a search. -/
def queryUrl (target : ListeningTarget) (terms key : Text) : Text :=
  "https://ws.audioscrobbler.com/2.0/?method=" ++ target.entity ++ ".search&" ++ target.entity
    ++ "=" ++ Text.percentEncode terms ++ "&api_key=" ++ Text.percentEncode key ++ "&format=json"

/-- Answers with pages of the listening database. -/
def provider : Search.Provider World := fun request => show SearchStep _ from do
  match request.kind with
  | .listening target =>
    let key := request.config.lastfmApiKey
    if key.isEmpty then throw (.unavailable "Last.fm API key")
    let results ← World.data Results.decoder (queryUrl target request.terms key)
    return (link? target results).map fun (url, title) => .titled url title
  | _ => return none

end InlineSearch.Provider.Listening

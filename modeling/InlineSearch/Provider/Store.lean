/-
InlineSearch.Provider.Store — items of the media and app store, and their
pages and players in the music service of the same house.

Which fields of an item are there depends on its type. A store search
reads its page and its title off it according to what was searched for; a
music search tells songs, albums, artists and podcasts apart.
-/
import InlineSearch.Text.LetterCase
import InlineSearch.Text.Percent
import InlineSearch.World.Basic

namespace InlineSearch.Provider.Store

open Search (Hit MusicTarget Request StoreItem)

/-! ## Items -/

/-- An item that a search found. -/
structure Item where
  wrapperType : Option Text := none
  kind : Option Text := none
  trackId : Option Nat := none
  collectionId : Option Nat := none
  trackName : Option Text := none
  collectionName : Option Text := none
  artistName : Option Text := none
  trackUrl : Option Text := none
  collectionUrl : Option Text := none
  artistUrl : Option Text := none
  sellerUrl : Option Text := none
deriving DecidableEq, Repr

/-- What a search found. -/
structure Results where
  count : Nat
  items : List Item
deriving DecidableEq, Repr

/-- Reads an item. -/
def Item.decoder : Json.Decoder Item := fun v => do
  let r ← Json.record ["wrapperType", "kind", "trackId", "collectionId", "trackName",
    "collectionName", "artistName", "trackViewUrl", "collectionViewUrl", "artistLinkUrl",
    "sellerUrl"] v
  return {
    wrapperType := ← r.optional "wrapperType" Json.text
    kind := ← r.optional "kind" Json.text
    trackId := ← r.optional "trackId" Json.word
    collectionId := ← r.optional "collectionId" Json.word
    trackName := ← r.optional "trackName" Json.text
    collectionName := ← r.optional "collectionName" Json.text
    artistName := ← r.optional "artistName" Json.text
    trackUrl := ← r.optional "trackViewUrl" Json.text
    collectionUrl := ← r.optional "collectionViewUrl" Json.text
    artistUrl := ← r.optional "artistLinkUrl" Json.text
    sellerUrl := ← r.optional "sellerUrl" Json.text }

/-- Reads what a search found. -/
def Results.decoder : Json.Decoder Results := fun v => do
  let r ← Json.record ["resultCount", "results"] v
  return {
    count := ← r.withDefault "resultCount" 0 Json.halfWord
    items := ← r.withDefault "results" [] (Json.list Item.decoder) }

/-- The first item, unless the search says that it found none. -/
def Results.first? (r : Results) : Option Item := if r.count == 0 then none else r.items.head?

/-- A name with the artist of the item behind it. -/
def Item.credited (item : Item) (name : Text) : Text :=
  match item.artistName with
  | some artist => name ++ " by " ++ artist
  | none => name

/-! ## Store pages -/

/-- What the store calls an item. -/
def entity : StoreItem → Text
  | .iosApp _ => "iPadSoftware"
  | .macApp _ => "macSoftware"
  | .movie => "movie"
  | .podcast => "podcast"
  | .song => "song"
  | .artist => "musicArtist"
  | .album => "album"

/-- Whether the page of the developer is asked for. -/
def asksForDeveloper : StoreItem → Bool
  | .iosApp developer | .macApp developer => developer
  | _ => false

/-- Page and title of a track, a collection or an artist. -/
def Item.ownLink? (item : Item) : Option (Text × Text) := do
  match String.ofList (← item.wrapperType) with
  | "track" => return (← item.trackUrl, item.credited (← item.trackName))
  | "collection" => return (← item.collectionUrl, item.credited (← item.collectionName))
  | "artist" => return (← item.artistUrl, ← item.artistName)
  | _ => none

/-- Page and title of an item. -/
def Item.link? (sought : StoreItem) (item : Item) : Option (Text × Text) := do
  match sought with
  | .movie => return (← item.trackUrl, ← item.trackName)
  | .iosApp developer | .macApp developer =>
    let seller := if developer then item.sellerUrl else none
    return (← seller.or item.trackUrl, ← item.trackName)
  | .podcast => return (← item.collectionUrl, ← item.collectionName)
  | .song | .artist | .album => item.ownLink?

/-! ## Music pages and players -/

/-- What the store calls the targets of a music search: the medium and
the entity. -/
def mediumAndEntity : MusicTarget → Text × Text
  | .any => ("music", [])
  | .artist => ("music", "musicArtist")
  | .album => ("music", "album")
  | .song => ("music", "musicTrack")
  | .podcast => ("podcast", [])

/-- Whether a text begins with a question mark and the name of a
parameter. -/
def parameterAt (t : Text) : Bool :=
  t.head? == some '?' && (((t.drop 1).takeWhile (· != '/')).drop 1).any (· == '=')

/-- Whether a URL has a parameter. -/
def hasParameter : Text → Bool
  | [] => false
  | c :: t => parameterAt (c :: t) || hasParameter t

/-- The page of the music service for a store page. -/
def musicUrl (url : Text) : Text :=
  let url := Text.replaceFirst "://itunes.apple.com" "://geo.itunes.apple.com" url
  url ++ (if hasParameter url then "&app=music" else "?app=music" : Text)

/-- Something to listen to. -/
inductive Music where
  | song (id albumId : Nat) (url title : Text)
  | album (id : Nat) (url title : Text)
  | artist (url title : Text)
  | podcast (url title : Text)
deriving DecidableEq, Repr

/-- What an item is in the music service. -/
def Music.ofItem? (item : Item) : Option Music := do
  match String.ofList (← item.wrapperType) with
  | "track" =>
    if item.kind = some ("podcast" : Text) then
      return .podcast (musicUrl (← item.collectionUrl)) (← item.collectionName)
    else
      return .song (← item.trackId) (← item.collectionId) (musicUrl (← item.trackUrl))
        (item.credited (← item.trackName))
  | "collection" =>
    return .album (← item.collectionId) (musicUrl (← item.collectionUrl))
      (item.credited (← item.collectionName))
  | "artist" => return .artist (musicUrl (← item.artistUrl)) (← item.artistName)
  | _ => none

/-- The page and the title of something to listen to. -/
def Music.link : Music → Text × Text
  | song _ _ url title | album _ url title | artist url title | podcast url title => (url, title)

/-- A player of some height. -/
def playerFrame (source : Text) (height : Nat) : Text :=
  "<iframe src=\x22" ++ source
    ++ "\x22 allow=\x22autoplay *; encrypted-media *;\x22 frameborder=\x220\x22 height=\x22"
    ++ Text.ofNat height
    ++ "\x22 style=\x22width:100%;max-width:660px;overflow:hidden;background:transparent;\x22 "
    ++ "sandbox=\x22allow-forms allow-popups allow-same-origin allow-scripts "
    ++ "allow-top-navigation-by-user-activation\x22></iframe>"

/-- Where players are for a country. -/
def playerSite (country : Text) : Text :=
  "https://embed.music.apple.com/" ++ Text.lowercase country ++ "/album/"

/-- The player of a song or an album. -/
def Music.player? (country affiliate : Text) : Music → Option Text
  | song id albumId _ _ =>
    some (playerFrame (playerSite country ++ Text.ofNat albumId ++ "?i=" ++ Text.ofNat id
      ++ "&app=music" ++ affiliate) 150)
  | album id _ _ =>
    some (playerFrame (playerSite country ++ Text.ofNat id ++ "?app=music" ++ affiliate) 450)
  | artist _ _ | podcast _ _ => none

/-! ## Searches -/

/-- The URL of a search in a country, with parameters that restrict it. -/
def queryUrl (terms country restriction : Text) : Text :=
  "https://itunes.apple.com/search?term=" ++ Text.percentEncode terms ++ "&country=" ++ country
    ++ restriction

/-- The first item that a search finds. -/
def firstItem (request : Request) (restriction : Text) : Lookup (Option Item) := do
  let url := queryUrl request.terms request.config.countryCode restriction
  return (← World.data Results.decoder url).first?

/-- The hit for an item of the store. -/
def storeHit? (affiliate : Text) (sought : StoreItem) (item : Item) : Option Hit :=
  (item.link? sought).map fun (url, title) =>
    .titled (if asksForDeveloper sought then url else url ++ affiliate) title

/-- The hit for something to listen to: its player if that is asked for and
there is one, and otherwise its page. -/
def musicHit (country affiliate : Text) (embed : Bool) (music : Music) : Hit :=
  match if embed then music.player? country affiliate else none with
  | some player => .markup "embed" player
  | none => .titled (music.link.1 ++ affiliate) music.link.2

/-- Answers with items of the store and with music. -/
def provider : Search.Provider World := fun request => show SearchStep _ from do
  let config := request.config
  match request.kind with
  | .store sought =>
    let found ← firstItem request ("&entity=" ++ entity sought)
    return found.bind (storeHit? config.itunesAffiliate sought)
  | .music target embed =>
    let (medium, entity) := mediumAndEntity target
    let found ← firstItem request ("&media=" ++ medium ++ "&entity=" ++ entity)
    return (found.bind Music.ofItem?).map
      (musicHit config.countryCode config.itunesAffiliate embed)
  | _ => return none

end InlineSearch.Provider.Store

/-
InlineSearch.Search.Kind — what can be searched.

A kind is what a trigger stands for; several triggers may share one, and
providers read off it what is asked of them.
-/
import InlineSearch.Config.Source

namespace InlineSearch.Search

/-- A site that a web search may be restricted to. -/
inductive Site where
  | amazon
  | youTube
deriving DecidableEq, Repr

/-- The domain of a site. -/
def Site.domain : Site → Text
  | amazon => "amazon.com"
  | youTube => "youtube.com"

/-- A social network whose users have profile pages. -/
inductive Network where
  | twitter
  | facebook
  | instagram
  | linkedIn
  | mastodon
deriving DecidableEq, Repr

/-- The name of a network. -/
def Network.label : Network → Text
  | twitter => "Twitter"
  | facebook => "Facebook"
  | instagram => "Instagram"
  | linkedIn => "LinkedIn"
  | mastodon => "Mastodon"

/-- The network with a letter. -/
def Network.ofLetter? : Char → Option Network
  | 't' => some twitter
  | 'f' => some facebook
  | 'i' => some instagram
  | 'l' => some linkedIn
  | 'm' => some mastodon
  | _ => none

/-- An item of the media and app store. For apps, the page of the
developer may be asked for. -/
inductive StoreItem where
  | iosApp (developer : Bool)
  | macApp (developer : Bool)
  | movie
  | podcast
  | song
  | artist
  | album
deriving DecidableEq, Repr

/-- What a music search looks for. -/
inductive MusicTarget where
  | any
  | artist
  | album
  | song
  | podcast
deriving DecidableEq, Repr

/-- What a search in the film database looks for. -/
inductive FilmTarget where
  /-- Movies, shows and people together. -/
  | multi
  | person
  | movie
  | tv
deriving DecidableEq, Repr

/-- The path segment of a film search. -/
def FilmTarget.endpoint : FilmTarget → Text
  | multi => "multi"
  | person => "person"
  | movie => "movie"
  | tv => "tv"

/-- What a search in the listening database looks for. -/
inductive ListeningTarget where
  | track
  | artist
  | album
deriving DecidableEq, Repr

/-- The name of a target in the listening database. -/
def ListeningTarget.entity : ListeningTarget → Text
  | track => "track"
  | artist => "artist"
  | album => "album"

/-- What a trigger searches. -/
inductive Kind where
  /-- The first result of a web search. -/
  | web
  /-- The first result of a web search on one site. -/
  | siteWeb (site : Site)
  | instantAnswer
  | encyclopedia
  | definition
  /-- Home pages of software. -/
  | software
  | profile (network : Network)
  | store (item : StoreItem)
  | music (target : MusicTarget) (embed : Bool)
  | film (target : FilmTarget)
  | listening (target : ListeningTarget)
  | repository
  | gist (embed : Bool)
  | spelling
  | pinboard
  /-- Local browser data; no sources stand for the configured ones. -/
  | history (sources : List Config.Source)
  /-- The terms are the URL. -/
  | replace
deriving DecidableEq, Repr

/-- Whether results of a kind are always written with their title. -/
def Kind.showsTitle (kind : Kind) : Bool := kind == .definition

end InlineSearch.Search

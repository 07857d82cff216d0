/-
InlineSearch.Search.Trigger — the triggers that are built in.

Most of them are listed in a table. The triggers for local browser data
follow a grammar instead: `h`, and then for every browser its letter with
a suffix that selects history (`h`), bookmarks (`b`) or, when empty or
mixed, both.
-/
import InlineSearch.Search.Kind

namespace InlineSearch.Search

open Config (Browser Source)

/-- The trigger of directives that name none. -/
def webTrigger : Text := "g"

/-- The trigger whose terms are the URL. -/
def urlTrigger : Text := "r"

/-- A built-in trigger. -/
structure Builtin where
  trigger : Text
  description : Text
  kind : Kind

namespace Builtin

/-- The built-in triggers outside the history grammar. -/
def all : List Builtin := [
  ⟨"a", "Amazon", .siteWeb .amazon⟩,
  ⟨"g", "Web search (first result)", .web⟩,
  ⟨"ddg", "DuckDuckGo", .web⟩,
  ⟨"b", "Web search (first result)", .web⟩,
  ⟨"yt", "YouTube", .siteWeb .youTube⟩,
  ⟨"z", "DDG Zero-Click Search", .instantAnswer⟩,
  ⟨"zero", "DDG Zero-Click Search", .instantAnswer⟩,
  ⟨"wiki", "Wikipedia", .encyclopedia⟩,
  ⟨"def", "Dictionary definition", .definition⟩,
  ⟨"s", "Software search", .software⟩,
  ⟨"@t", "Twitter user link", .profile .twitter⟩,
  ⟨"@f", "Facebook user link", .profile .facebook⟩,
  ⟨"@i", "Instagram user link", .profile .instagram⟩,
  ⟨"@l", "LinkedIn user link", .profile .linkedIn⟩,
  ⟨"@m", "Mastodon user link", .profile .mastodon⟩,
  ⟨"am", "Apple Music", .music .any false⟩,
  ⟨"amart", "Apple Music Artist", .music .artist false⟩,
  ⟨"amalb", "Apple Music Album", .music .album false⟩,
  ⟨"amsong", "Apple Music Song", .music .song false⟩,
  ⟨"ampod", "Apple Music Podcast", .music .podcast false⟩,
  ⟨"amarte", "Apple Music Artist (embed)", .music .artist true⟩,
  ⟨"amalbe", "Apple Music Album (embed)", .music .album true⟩,
  ⟨"amsonge", "Apple Music Song (embed)", .music .song true⟩,
  ⟨"ampode", "Apple Music Podcast (embed)", .music .podcast true⟩,
  ⟨"ipod", "iTunes podcast", .store .podcast⟩,
  ⟨"isong", "iTunes song", .store .song⟩,
  ⟨"iart", "iTunes artist", .store .artist⟩,
  ⟨"ialb", "iTunes album", .store .album⟩,
  ⟨"mas", "Mac App Store", .store (.macApp false)⟩,
  ⟨"masd", "Mac App Store developer link", .store (.macApp true)⟩,
  ⟨"itu", "iTunes App Store", .store (.iosApp false)⟩,
  ⟨"itud", "iTunes App Store developer link", .store (.iosApp true)⟩,
  ⟨"imov", "iTunes Movies", .store .movie⟩,
  ⟨"ipode", "iTunes podcast embed", .store .podcast⟩,
  ⟨"isonge", "iTunes song embed", .store .song⟩,
  ⟨"iarte", "iTunes artist embed", .store .artist⟩,
  ⟨"ialbe", "iTunes album embed", .store .album⟩,
  ⟨"tmdb", "The Movie Database search", .film .multi⟩,
  ⟨"tmdba", "The Movie Database actor search", .film .person⟩,
  ⟨"tmdbm", "The Movie Database movie search", .film .movie⟩,
  ⟨"tmdbt", "The Movie Database TV search", .film .tv⟩,
  ⟨"lsong", "Last.fm track", .listening .track⟩,
  ⟨"lsonge", "Last.fm track embed", .listening .track⟩,
  ⟨"lart", "Last.fm artist", .listening .artist⟩,
  ⟨"larte", "Last.fm artist embed", .listening .artist⟩,
  ⟨"lalb", "Last.fm album", .listening .album⟩,
  ⟨"lalbe", "Last.fm album embed", .listening .album⟩,
  ⟨"lpod", "Last.fm podcast", .web⟩,
  ⟨"lpode", "Last.fm podcast embed", .web⟩,
  ⟨"gh", "GitHub user/repo link", .repository⟩,
  ⟨"gist", "Gist search", .gist false⟩,
  ⟨"giste", "Gist embed", .gist true⟩,
  ⟨"sp", "Spelling", .spelling⟩,
  ⟨"spell", "Spelling", .spelling⟩,
  ⟨"pb", "Pinboard", .pinboard⟩,
  ⟨"r", "Plain replacement (terms are the URL)", .replace⟩]

/-- The built-in trigger with a name. -/
def find? (trigger : Text) : Option Builtin := all.find? (·.trigger == trigger)

end Builtin

/-! ## The history grammar -/

/-- The forms of the history grammar with their descriptions. -/
def historyForms : List (Text × Text) := [
  ("h", "Browser history and bookmarks (configured sources)"),
  ("hs[hb]", "Safari [history, bookmarks]"),
  ("hc[hb]", "Chrome [history, bookmarks]"),
  ("hf[hb]", "Firefox [history, bookmarks]"),
  ("he[hb]", "Edge [history, bookmarks]"),
  ("hb[hb]", "Brave [history, bookmarks]"),
  ("ha[hb]", "Arc [history, bookmarks]")]

/-- Whether a letter selects a store of the browser before it. -/
def isStoreLetter (c : Char) : Bool := c == 'h' || c == 'b'

/-- The sources of one browser that a suffix selects. -/
def sourcesOf (browser : Browser) (suffix : Text) : List Source :=
  match suffix.any (· == 'h'), suffix.any (· == 'b') with
  | true, false => [⟨browser, .history⟩]
  | false, true => [⟨browser, .bookmarks⟩]
  | _, _ => [⟨browser, .bookmarks⟩, ⟨browser, .history⟩]

/-- The sources that browser letters with their suffixes select. -/
def sourcesOfLetters? : Text → Option (List Source)
  | [] => some []
  | letter :: rest => do
    let browser ← Browser.ofLetter? letter
    let later ← sourcesOfLetters? (rest.dropWhile isStoreLetter)
    return sourcesOf browser (rest.takeWhile isStoreLetter) ++ later
termination_by t => t.length
decreasing_by
  have := (List.dropWhile_sublist (p := isStoreLetter) (l := rest)).length_le
  simp only [List.length_cons]
  omega

/-- The sources that a history trigger selects, each once, in the order in
which the trigger names them. Nothing for any other trigger. -/
def historySources? (trigger : Text) : Option (List Source) := do
  let letters ← Text.dropPrefix? "h" trigger
  return (← sourcesOfLetters? letters).eraseDups

/-- The history triggers for one browser and for the configured sources. -/
def simpleHistoryTriggers : List Text :=
  "h" :: ['s', 'c', 'f', 'e', 'b', 'a'].flatMap fun letter =>
    [['h', letter], ['h', letter, 'h'], ['h', letter, 'b']]

end InlineSearch.Search

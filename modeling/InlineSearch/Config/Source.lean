/-
InlineSearch.Config.Source — the local data of browsers that a search
may look through: a browser, and its history or its bookmarks.
-/
import InlineSearch.Text.Basic

namespace InlineSearch.Config

/-- A browser whose local data can be searched. -/
inductive Browser where
  | safari
  | chrome
  | firefox
  | edge
  | brave
  | arc
deriving DecidableEq, Repr

/-- One of the two stores of a browser. -/
inductive Store where
  | history
  | bookmarks
deriving DecidableEq, Repr

/-- A store of a browser. -/
structure Source where
  browser : Browser
  store : Store
deriving DecidableEq, Repr

namespace Browser

/-- Every browser. -/
def all : List Browser := [safari, chrome, firefox, edge, brave, arc]

/-- The name of a browser. -/
def label : Browser → Text
  | safari => "Safari"
  | chrome => "Chrome"
  | firefox => "Firefox"
  | edge => "Edge"
  | brave => "Brave"
  | arc => "Arc"

/-- The letter of a browser in history triggers. -/
def letter : Browser → Char
  | safari => 's'
  | chrome => 'c'
  | firefox => 'f'
  | edge => 'e'
  | brave => 'b'
  | arc => 'a'

/-- The browser with a letter. -/
def ofLetter? (c : Char) : Option Browser := all.find? (·.letter == c)

end Browser

namespace Store

/-- The name of a store in messages and in configuration files. -/
def label : Store → Text
  | history => "history"
  | bookmarks => "bookmarks"

end Store

namespace Source

/-- Every source. -/
def all : List Source :=
  Browser.all.flatMap fun browser => [⟨browser, .bookmarks⟩, ⟨browser, .history⟩]

/-- A source in messages. -/
def label (s : Source) : Text := s.browser.label ++ " " ++ s.store.label

/-- The name of a source in configuration files. -/
def name (s : Source) : Text := Text.lowerAscii s.browser.label ++ "_" ++ s.store.label

/-- The source with a name. -/
def ofName? (name : Text) : Option Source := all.find? (·.name == name)

end Source

end InlineSearch.Config

/-
InlineSearch.Provider.Standard — the providers of all built-in triggers,
and the linker that searches with them.
-/
import InlineSearch.Document.Linking
import InlineSearch.Provider.Bookmarks
import InlineSearch.Provider.Dictionary
import InlineSearch.Provider.Encyclopedia
import InlineSearch.Provider.Film
import InlineSearch.Provider.Gist
import InlineSearch.Provider.LinkCheck
import InlineSearch.Provider.Listening
import InlineSearch.Provider.PageTitle
import InlineSearch.Provider.Pinboard
import InlineSearch.Provider.Profile
import InlineSearch.Provider.Store

namespace InlineSearch.Provider

open Search (Builtin Kind Registry Resolver)

/-- The provider of a kind of search. Plain replacement has none. -/
def ofKind? (overrides : Bookmarks.Overrides) : Kind → Option (Search.Provider World)
  | .web | .siteWeb _ | .software => some Web.provider
  | .instantAnswer => some InstantAnswer.provider
  | .encyclopedia => some Encyclopedia.provider
  | .definition => some Dictionary.provider
  | .profile _ => some Profile.provider
  | .store _ | .music _ _ => some Store.provider
  | .film _ => some Film.provider
  | .listening _ => some Listening.provider
  | .repository | .gist _ => some Gist.provider
  | .spelling => some Spelling.provider
  | .pinboard => some Pinboard.provider
  | .history _ => some (Bookmarks.provider overrides)
  | .replace => none

/-- The registry with a provider for a built-in trigger, if its kind has
one. -/
def addBuiltin (overrides : Bookmarks.Overrides) (r : Registry World) (b : Builtin) :
    Registry World :=
  match ofKind? overrides b.kind with
  | some provider => r.register b.trigger provider
  | none => r

/-- The registry with all providers. -/
def registry (overrides : Bookmarks.Overrides) : Registry World :=
  (Builtin.all.foldl (addBuiltin overrides) {}).provideHistory (Bookmarks.provider overrides)

/-- All that resolving needs, with links checked and titles fetched over
the network. -/
def resolver : Resolver World where
  registry := registry []
  validator := some LinkCheck.validator
  titles := some PageTitle.source

/-- The linker for a configuration. -/
def linker (config : Config) (random : Nat) : Linker World :=
  { Linker.ofConfig config resolver with random }

end InlineSearch.Provider

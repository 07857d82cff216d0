/-
InlineSearch.Provider.InstantAnswer — the page that the search engine
knows for some terms at once.
-/
import InlineSearch.Provider.Web

namespace InlineSearch.Provider

/-- What the search engine knows. -/
structure InstantAnswer where
  /-- The page that the answer was taken from. -/
  abstractUrl : Text := []
  /-- The page that the search engine would go to. -/
  redirect : Text := []
  heading : Text := []
deriving DecidableEq, Repr

namespace InstantAnswer

/-- Reads an answer. -/
def decoder : Json.Decoder InstantAnswer := fun v => do
  let r ← Json.record ["AbstractURL", "Redirect", "Heading"] v
  return {
    abstractUrl := ← r.withDefault "AbstractURL" [] Json.text
    redirect := ← r.withDefault "Redirect" [] Json.text
    heading := ← r.withDefault "Heading" [] Json.text }

/-- The page of an answer and its title, if it has both. -/
def link? (a : InstantAnswer) : Option (Text × Text) :=
  let url := if a.abstractUrl.isEmpty then a.redirect else a.abstractUrl
  if url.isEmpty || a.heading.isEmpty then none else some (url, a.heading)

/-- The URL of the answer for a query. -/
def queryUrl (query : Text) : Text :=
  "https://api.duckduckgo.com/?q=" ++ Text.percentEncode query
    ++ "&format=json&no_redirect=1&no_html=1&skip_disambig=1"

/-- The answer for a query. -/
def ofQuery (query : Text) : Lookup InstantAnswer := World.data decoder (queryUrl query)

/-- Answers with the page that is known at once, and otherwise with the
first result of a web search. -/
def provider : Search.Provider World := fun request => show SearchStep _ from do
  match (← ofQuery request.terms).link? with
  | some (url, title) => return some (.titled url title)
  | none => return (← Web.firstHit request.terms).map Search.Hit.untitled

end InstantAnswer

end InlineSearch.Provider

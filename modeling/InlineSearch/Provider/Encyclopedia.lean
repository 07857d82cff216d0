/-
InlineSearch.Provider.Encyclopedia — articles of the encyclopedia.

The encyclopedia is first asked for an article of exactly that title, and
then searched; its search leads to the page of the best match, from which
title and address are read.
-/
import InlineSearch.Text.Percent
import InlineSearch.World.Basic

namespace InlineSearch.Provider.Encyclopedia

open Search (Hit)

/-! ## Articles by title -/

/-- A page that the encyclopedia lists. -/
structure Page where
  title : Text
  url : Option Text
  /-- There is no article of that title. -/
  missing : Bool
deriving DecidableEq, Repr

/-- Reads a page. What is said about a missing page is of no interest, but
it has to be data; it stands four levels deep. -/
def pageDecoder : Json.Decoder Page := fun v => do
  let r ← Json.record ["title", "fullurl", "missing"] v
  let title ← r.required "title" Json.text
  let url ← r.optional "fullurl" Json.text
  let missing ← r.optional "missing" (Json.plain (Json.maxDepth - 4))
  return { title, url, missing := missing.isSome }

/-- Reads the pages of an answer, by their numbers. -/
def pagesDecoder : Json.Decoder (List (Text × Page)) := fun v => do
  let query ← Json.record ["pages"] v
  query.withDefault "pages" [] (Json.entries pageDecoder)

/-- Reads an answer, which may have no pages. -/
def answerDecoder : Json.Decoder (List (Text × Page)) := fun v => do
  let r ← Json.record ["query"] v
  return (← r.optional "query" pagesDecoder).getD []

/-- The pages of an answer, of several with one number the last. -/
def lastPages : List (Text × Page) → List Page
  | [] => []
  | (number, page) :: rest =>
    if rest.any (·.1 == number) then lastPages rest else page :: lastPages rest

/-- The address and the title of the first page with an article. -/
def article? (pages : List (Text × Page)) : Option (Text × Text) :=
  (lastPages pages).findSome? fun page =>
    if page.missing then none else page.url.map (·, page.title)

/-! ## Articles by search -/

/-- The text behind `opening` up to the next quote, which has to stand on
the same line. -/
def quotedAfter? (opening page : Text) : Option Text :=
  Text.findSuffix? (fun t => do
    return (← Text.cutInLine "\x22" (← Text.dropPrefix? opening t)).1) page

/-- The address and the title of the article that a page shows. -/
def shownArticle? (page : Text) : Option (Text × Text) := do
  let title ← quotedAfter? "\x22wgTitle\x22:\x22" page
  let url ← quotedAfter? "<link rel=\x22canonical\x22 href=\x22" page
  return (url, title)

/-! ## Searches -/

/-- The URL that asks for an article of a title. -/
def titleUrl (title : Text) : Text :=
  "https://en.wikipedia.org/w/api.php?action=query&format=json&prop=info&inprop=url"
    ++ "&redirects=1&titles=" ++ Text.percentEncode title

/-- The URL that leads to the best match for some terms. -/
def searchUrl (terms : Text) : Text :=
  "https://en.wikipedia.org/wiki/Special:Search?search=" ++ Text.percentEncode terms ++ "&go=Go"

/-- Answers with articles. -/
def provider : Search.Provider World := fun request => show SearchStep _ from do
  let answer ← World.page (titleUrl request.terms)
  match Json.decode? answerDecoder answer with
  | none => throw (.backend none)
  | some pages =>
    let found ← match article? pages with
      | some found => pure (some found)
      | none => do pure (shownArticle? (← World.page (searchUrl request.terms)))
    return found.map fun (url, title) => .titled url title

end InlineSearch.Provider.Encyclopedia

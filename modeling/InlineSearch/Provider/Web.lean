/-
InlineSearch.Provider.Web — the first result of a web search.

The search engine answers a query that begins with a backslash by a
redirect to its first result, so no list of results is read. The redirect
may lead over the engine's own tracking page, which carries the target in
its query (`targetOf?`).

Links to product pages of the book and goods store get the partner tag of
the configuration (`withPartner?`).
-/
import InlineSearch.Text.Percent
import InlineSearch.World.Basic

namespace InlineSearch.Provider.Web

open Search (Hit Request Site)

/-! ## Targets of redirects -/

/-- The value of the parameter that carries the target, at the start of a
text. -/
def trackedAt? (t : Text) : Option Text := do
  let rest ← (Text.dropPrefix? "?uddg=" t).or (Text.dropPrefix? "&uddg=" t)
  let value := rest.takeWhile (· != '&')
  guard (!value.isEmpty)
  return value

/-- Whether a text is the URL of a page on the web. -/
def isWebUrl (t : Text) : Bool := Text.startsWith "http://" t || Text.startsWith "https://" t

/-- The page that a redirect of the search engine leads to. -/
def targetOf? (location : Text) : Option Text :=
  let target :=
    match Text.findSuffix? trackedAt? location with
    | some value => Text.percentDecode value
    | none => location
  some (Text.trim target) |>.filter isWebUrl

/-! ## Queries -/

/-- The URL that redirects to the first result for some terms. -/
def queryUrl (terms : Text) : Text :=
  "https://lite.duckduckgo.com/lite/?q=%5C" ++ Text.percentEncode terms

/-- The terms restricted to a site. -/
def onSite (site terms : Text) : Text := "site:" ++ site ++ " " ++ terms

/-- Sites that offer software of others. -/
def mirrorSites : List Text := [
  "apple.com", "postmates.com", "download.cnet.com", "softpedia.com", "softonic.com",
  "macupdate.com"]

/-- The terms of a search for the home page of software. -/
def softwareTerms (terms : Text) : Text :=
  Text.unwords (mirrorSites.map ("-site:" ++ ·)) ++ " " ++ terms ++ " app"

/-- The first result for some terms. -/
def firstHit (terms : Text) : Lookup (Option Text) := do
  return (← World.redirect (queryUrl terms)).bind targetOf?

/-- The first result for some terms on a site. -/
def firstHitOn (site terms : Text) : Lookup (Option Text) := firstHit (onSite site terms)

/-! ## Product pages -/

/-- What the URL of a product page says. -/
structure Product where
  /-- The name in the URL, if there is one. -/
  slug : Option Text
  /-- The letter of the kind of page. -/
  letter : Char
  id : Text
deriving DecidableEq, Repr

/-- The product that a path names without a slug. -/
def bareProduct? : Text → Option (Char × Text)
  | letter :: 'p' :: '/' :: rest => do
    guard (letter == 'd' || letter == 'g')
    let id := rest.takeWhile (· != '?')
    guard (!id.isEmpty)
    return (letter, id)
  | _ => none

/-- The product that a path names, behind the shortest slug if there is
one. -/
def productOfPath? (path : Text) : Option Product :=
  let afterSlug? (t : Text) := (Text.dropPrefix? "/" t).bind bareProduct?
  match Text.splitInLine? afterSlug? path with
  | some (slug, letter, id) => some ⟨some slug, letter, id⟩
  | none => (bareProduct? path).map fun (letter, id) => ⟨none, letter, id⟩

/-- The product that a text names behind the domain of the store. -/
def productOnSite? (t : Text) : Option Product :=
  (Text.dropPrefix? (Site.amazon.domain ++ "/") t).bind productOfPath?

/-- The product that a URL names at the start of a text. -/
def productAt? (t : Text) : Option Product := do
  let rest ← (Text.dropPrefix? "https://" t).or (Text.dropPrefix? "http://" t)
  return (← Text.splitInLine? productOnSite? rest).2

/-- The link to a product with a partner tag. -/
def Product.tagged (p : Product) (partner : Text) : Text :=
  "http://www.amazon.com/" ++ [p.letter] ++ "p/product/" ++ p.id
    ++ "/ref=as_li_ss_tl?ie=UTF8&linkCode=ll1&tag=" ++ partner

/-- The name of a product in words. -/
def Product.name? (p : Product) : Option Text :=
  (p.slug.map fun slug => slug.map fun c => if c = '-' then ' ' else c).filter (!·.isEmpty)

/-- The link to a product page with a partner tag, and the name of the
product. Nothing for any other URL. -/
def withPartner? (partner url : Text) : Option (Text × Option Text) :=
  (Text.findSuffix? productAt? url).map fun p => (p.tagged partner, p.name?)

/-- The hit for a page of the store. -/
def storeHit (partner url : Text) : Hit :=
  if partner.isEmpty then .untitled url
  else
    match withPartner? partner url with
    | some (url, title) => { url, title }
    | none => .untitled url

/-! ## Searches -/

/-- Answers web searches, also those that are restricted to a site or look
for software. -/
def provider : Search.Provider World := fun (request : Request) => show SearchStep _ from do
  match request.kind with
  | .siteWeb .amazon =>
    return (← firstHitOn Site.amazon.domain request.terms).map
      (storeHit request.config.amazonPartner)
  | .siteWeb site => return (← firstHitOn site.domain request.terms).map Hit.untitled
  | .software => return (← firstHit (softwareTerms request.terms)).map Hit.untitled
  | _ => return (← firstHit request.terms).map Hit.untitled

end InlineSearch.Provider.Web

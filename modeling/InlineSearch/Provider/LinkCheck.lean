/-
InlineSearch.Provider.LinkCheck — whether links resolve.

Only links to pages on the web can be checked. A server that does not
answer such checks leaves the question open, except for a store that is
known never to answer them.
-/
import InlineSearch.Provider.Web

namespace InlineSearch.Provider.LinkCheck

open Search (Validation)

/-- The host of a URL, with what stands before and behind its name. -/
def host (url : Text) : Text :=
  let rest :=
    match Text.cut "://" url with
    | some (_, rest) => rest
    | none => url
  rest.takeWhile fun c => c != '/' && c != '?' && c != '#'

/-- Whether the host of a URL is known not to answer checks. -/
def isQuiet (url : Text) : Bool := Text.contains "amazon.com" (host url)

/-- Whether a status says that the server does not answer checks. -/
def refusesChecks (status : Nat) : Bool := status == 405 || status == 503

/-- What the status of a link says about it. -/
def ofStatus (url : Text) (status : Nat) : Validation :=
  if 200 ≤ status && status ≤ 299 then .valid
  else if refusesChecks status then
    if isQuiet url then .valid else .blocked ("HTTP " ++ Text.ofNat status)
  else .invalid

/-- Checks links. -/
def validator : Search.Validator World := fun url => do
  if Web.isWebUrl url then
    match ← (World.status url).run with
    | .ok status => return ofStatus url status
    | .error e => return .unknown e.message
  else return .valid

end InlineSearch.Provider.LinkCheck

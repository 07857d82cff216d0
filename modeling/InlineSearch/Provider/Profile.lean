/-
InlineSearch.Provider.Profile — profile pages on social networks.

A profile page follows from the handle, so nothing is asked of the
network. A handle is made of ASCII letters, digits and low lines, where
case is ignored; on a federated network it names a host too.
-/
import InlineSearch.Search.Provider
import InlineSearch.Text.Blank
import InlineSearch.Text.FoldCase

namespace InlineSearch.Provider.Profile

open Search (Hit Network ProviderError Request)

/-! ## Handles -/

/-- Whether a character may stand in a handle. -/
def isHandleChar (c : Char) : Bool := (Text.foldChar c).isAlphanum || c == '_'

/-- Whether a character may stand in the host of a handle. -/
def isHostChar (c : Char) : Bool := isHandleChar c || c == '.'

/-- The text without an `@` at its start. -/
def dropAt (t : Text) : Text := (Text.dropPrefix? "@" t).getD t

/-- A nonempty text whose characters belong to a class. -/
def only? (p : Char → Bool) (t : Text) : Option Text :=
  if !t.isEmpty && t.all p then some t else none

/-- The user that a handle names on a network with one host. -/
def user? (handle : Text) : Option Text := only? isHandleChar (dropAt handle)

/-- The user and the host that a handle names on a federated network. -/
def userAndHost? (handle : Text) : Option (Text × Text) := do
  let (user, host) ← Text.cut "@" (dropAt handle)
  return (← only? isHandleChar user, ← only? isHostChar host)

/-- What a name on a network is called. -/
def noun : Network → Text
  | .twitter => "handle"
  | _ => "username"

/-- What is said about a handle that is none. -/
def refusal (network : Network) (handle : Text) : Text :=
  handle ++ " is not a valid " ++ network.label ++ " " ++ noun network

/-! ## Pages -/

/-- The page of a user on a network with one host. -/
def pageUrl (network : Network) (user : Text) : Text :=
  match network with
  | .twitter => "https://twitter.com/" ++ user
  | .facebook => "https://www.facebook.com/" ++ user
  | .instagram => "https://www.instagram.com/" ++ user ++ "/"
  | .linkedIn => "https://www.linkedin.com/in/" ++ user ++ "/"
  | .mastodon => "https://mastodon.social/@" ++ user

/-- A user as a network shows it. -/
def shownUser (network : Network) (user : Text) : Text :=
  match network with
  | .twitter | .instagram => '@' :: user
  | _ => user

/-- The page and the shown name of a handle. -/
def profile (network : Network) (handle : Text) : Except ProviderError (Text × Text) :=
  let handle := Text.trim handle
  let found :=
    match network with
    | .mastodon => (userAndHost? handle).map fun (user, host) =>
      ("https://" ++ host ++ "/@" ++ user, "@" ++ user ++ "@" ++ host)
    | _ => (user? handle).map fun user => (pageUrl network user, shownUser network user)
  match found with
  | some found => .ok found
  | none => .error (.invalidInput (refusal network handle))

/-! ## Titles -/

/-- A URL without its scheme, a leading `www.` and slashes at its end. -/
def shortUrl (url : Text) : Text :=
  let host? := (Text.dropPrefix? "https://" url).or (Text.dropPrefix? "http://" url)
  let short := (host?.map fun host => (Text.dropPrefix? "www." host).getD host).getD url
  Text.dropEndWhile (· == '/') short

/-- A title template with its placeholders replaced, each at its first
place. -/
def fillTitle (template user service url : Text) : Text :=
  Text.replaceFirst "%url%" (shortUrl url)
    (Text.replaceFirst "%service%" service (Text.replaceFirst "%user%" user template))

/-- Answers searches for profiles. The title is the link text too. -/
def provider {σ : Type} : Search.Provider σ := fun request =>
  match request.kind with
  | .profile network => return do
    let (url, user) ← profile network request.terms
    let title := fillTitle request.config.socialTemplate user network.label url
    return some { url, title := some title, linkText := some title }
  | _ => return .ok none

end InlineSearch.Provider.Profile

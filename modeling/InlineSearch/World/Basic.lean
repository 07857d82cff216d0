/-
InlineSearch.World.Basic — the world that searches look into: a network,
files and, where one is installed, a spell checker.

A lookup is a step in that world that may fail. The world remembers the
requests that were made; nothing else changes but the files.
-/
import InlineSearch.Json.Decode
import InlineSearch.Search.Provider
import InlineSearch.World.Files
import InlineSearch.World.Http

namespace InlineSearch

/-- A program that answers its arguments and its input with its output,
unless it cannot be started. -/
abbrev Program := List Text → Text → Option Text

/-- What searches look into. -/
structure World where
  network : Http.Network := Http.offline
  /-- The requests that were made, the last first. -/
  requests : List Http.Request := []
  files : Files := {}
  /-- The home directory. -/
  home : Path := []
  spellChecker : Option Program := none

/-- Why a lookup fails. -/
inductive LookupError where
  /-- The request failed on the way, or its answer could not be read. -/
  | unanswered
  /-- The server refused the request. -/
  | refused (status : Nat) (url : Text)
  /-- A file or a program could not be read. -/
  | unreadable
  /-- What was read is not the data that was asked for. -/
  | malformed
deriving DecidableEq, Repr

/-- What is said about an error. -/
def LookupError.message : LookupError → Text
  | unanswered => "HTTP request failed"
  | refused status url => "HTTP error: " ++ Text.ofNat status ++ " - " ++ url
  | unreadable => "I/O error"
  | malformed => "JSON error"

/-- A step in the world that may fail. -/
abbrev Lookup (α : Type) := ExceptT LookupError (StateM World) α

/-- A step of a search. -/
abbrev SearchStep (α : Type) := ExceptT Search.ProviderError (StateM World) α

/-- A lookup as a step of a search, which its failure ends. -/
instance : MonadLift Lookup SearchStep where
  monadLift lookup := lookup.adapt fun e => .backend (some e.message)

namespace World

/-! ## Requests -/

/-- Makes a request. -/
def send (request : Http.Request) : StateM World (Option Http.Response) := do
  let w ← get
  set { w with requests := request :: w.requests }
  return w.network w.requests.length request

/-- Makes a request that has to be answered. -/
def ask (request : Http.Request) : Lookup Http.Response := do
  match ← (send request : StateM World (Option Http.Response)) with
  | some response => return response
  | none => throw .unanswered

/-- The page at a URL. -/
def page (url : Text) : Lookup Text := do
  let response ← ask ⟨.get, url, true⟩
  if Http.isFailure response.status then throw (.refused response.status url)
  match response.body with
  | some body => return body
  | none => throw .unanswered

/-- The data in the JSON document at a URL. -/
def data {α : Type} (d : Json.Decoder α) (url : Text) : Lookup α := do
  match Json.decode? d (← page url) with
  | some a => return a
  | none => throw .malformed

/-- The place that a URL redirects to. -/
def redirect (url : Text) : Lookup (Option Text) := do
  return (← ask ⟨.get, url, false⟩).target?

/-- The status of the page that a URL leads to. -/
def status (url : Text) : Lookup Nat := do
  return (← ask ⟨.head, url, true⟩).status

/-! ## Files -/

/-- Whether there is a file at a place. -/
def isFile (place : Path) : StateM World Bool := return (← get).files.isFile place

/-- The text of the file at a place. -/
def read (place : Path) : Lookup Text := do
  match (← get).files.readAt place with
  | .ok t => return t
  | .error _ => throw .unreadable

/-- Writes a text to a place, where that is possible. -/
def tryWrite (place : Path) (t : Text) : StateM World Unit :=
  modify fun w =>
    match w.files.writeAt place t with
    | .ok files => { w with files }
    | .error _ => w

/-- The place in the home directory that names lead to. -/
def inHome (names : Path) : StateM World Path := return (← get).home ++ names

end World

end InlineSearch
